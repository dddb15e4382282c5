import Mathlib.Data.List.Induction
import Mathlib.Data.List.Nodup
import StringCatalog.Template.Fill
import StringCatalog.Template.Placeholder

/-!
# StringCatalog.Proofs.Scanning

A template is scanned twice: for its placeholders when a catalog is read, and
for its conversions when it is filled.  The two scans differ, as a conversion
may hold flags, a width and a precision, and pass over different characters
when nothing matches.

* `read?_eq_of_conversion` — where a conversion starts, a placeholder is met
  exactly when nothing stands between its position and a known letter;
* `decides_of_scanned` — the scans fall out of step exactly at a loose percent
  sign that reads as the start of a placeholder (`swallows`);
* `aligned_iff_of_filled` — so this decides whether the placeholders of a filled
  template are conversions of it.
-/

namespace StringCatalog.Template

/-! ## Conversions and placeholders -/

namespace Conversion

/-- What stands between the percent sign and the letter. -/
def body (v : Conversion) : List Char :=
  positionChars v.position ++ v.flags ++ v.width ++ precisionChars v.precision

theorem chars_eq (v : Conversion) : v.chars = '%' :: (v.body ++ [v.letter]) := by
  simp [chars, body]

/-- Whether there are flags, a width or a precision. -/
def isPadded (v : Conversion) : Bool :=
  !v.flags.isEmpty || !v.width.isEmpty || v.precision.isSome

/-- The placeholder of the same position and letter. -/
def placeholder (v : Conversion) : Placeholder := ⟨v.position, v.letter⟩

/-- A conversion without padding is written as its placeholder is. -/
theorem chars_placeholder {v : Conversion} (h : v.isPadded = false) :
    v.placeholder.chars = v.chars := by
  obtain ⟨position, flags, width, precision, letter⟩ := v
  simp only [isPadded, Bool.or_eq_false_iff, Bool.not_eq_false', List.isEmpty_iff,
    Option.isSome_eq_false_iff, Option.isNone_iff_eq_none] at h
  obtain ⟨⟨rfl, rfl⟩, rfl⟩ := h
  simp [placeholder, Placeholder.chars, chars, precisionChars]

end Conversion

/-! ## Where a conversion starts -/

/-- The position that some characters start with, if there is one, and what follows it. -/
def splitPosition (cs : List Char) : Option (List Char) × List Char :=
  match readPosition? cs with
  | some (ds, rest) => (some ds, rest)
  | none => (none, cs)

theorem digits_of_splitPosition {cs ds : List Char} (h : (splitPosition cs).1 = some ds) :
    ds ≠ [] ∧ ∀ d ∈ ds, d.isDigit = true := by
  unfold splitPosition at h
  split at h
  · next _ _ hread =>
    cases h
    exact digits_of_readPosition? hread
  · cases h

/-- A placeholder is read as its position, if there is one, and a letter. -/
theorem Placeholder.read?_eq (cs : List Char) :
    Placeholder.read? cs =
      match (splitPosition cs).2 with
      | c :: rest =>
        if placeholderLetters.contains c then some (⟨(splitPosition cs).1, c⟩, rest) else none
      | [] => none := by
  unfold Placeholder.read? splitPosition
  cases readPosition? cs with
  | none => rfl
  | some found => rfl

theorem digits_of_readPrecision {cs ds : List Char}
    (h : (Conversion.readPrecision cs).1 = some ds) : ds ≠ [] ∧ ∀ d ∈ ds, d.isDigit = true := by
  unfold Conversion.readPrecision at h
  split at h
  · next rest =>
    split at h
    · cases h
    · next hne =>
      cases h
      exact ⟨hne, List.all_eq_true.1 List.all_takeWhile⟩
  · cases h

theorem mem_readPrecision {cs : List Char} {c : Char}
    (h : c ∈ Conversion.precisionChars (Conversion.readPrecision cs).1) :
    c.isDigit = true ∨ c = '.' := by
  cases hprecision : (Conversion.readPrecision cs).1 with
  | none =>
      rw [hprecision] at h
      cases h
  | some ds =>
      rw [hprecision] at h
      rcases List.mem_cons.1 h with rfl | h
      · exact .inr rfl
      · exact .inl ((digits_of_readPrecision hprecision).2 c h)

/-- A conversion is read as its position, its flags, width and precision, and a letter. -/
theorem Conversion.read?_eq (cs : List Char) :
    Conversion.read? cs =
      (match (readPrecision (((splitPosition cs).2.dropWhile isFlag).dropWhile Char.isDigit)).2 with
      | c :: rest =>
        if isConversionLetter c then
          some (⟨(splitPosition cs).1, (splitPosition cs).2.takeWhile isFlag,
            ((splitPosition cs).2.dropWhile isFlag).takeWhile Char.isDigit,
            (readPrecision (((splitPosition cs).2.dropWhile isFlag).dropWhile Char.isDigit)).1, c⟩,
            rest)
        else none
      | [] => none) := by
  unfold Conversion.read? splitPosition
  cases readPosition? cs with
  | none => rfl
  | some found => rfl

/-- A conversion is read as a position, flags, a width, a precision and a letter in turn. -/
theorem Conversion.parts_of_read? {cs rest : List Char} {v : Conversion}
    (h : Conversion.read? cs = some (v, rest)) :
    splitPosition cs =
        (v.position, v.flags ++ (v.width ++ (precisionChars v.precision ++ v.letter :: rest))) ∧
      (∀ c ∈ v.flags, isFlag c = true) ∧ (∀ c ∈ v.width, c.isDigit = true) ∧
      ∀ c ∈ precisionChars v.precision, c.isDigit = true ∨ c = '.' := by
  rw [read?_eq] at h
  split at h
  · next c after hafter =>
    split at h
    · cases h
      refine ⟨Prod.ext rfl ?_, ?_, ?_, fun c hc => mem_readPrecision hc⟩
      · dsimp only
        rw [← hafter, ← eq_of_readPrecision, List.takeWhile_append_dropWhile,
          List.takeWhile_append_dropWhile]
      · exact List.all_eq_true.1 List.all_takeWhile
      · exact List.all_eq_true.1 List.all_takeWhile
    · cases h
  · cases h

/-- No percent sign stands between the percent sign of a conversion and its letter. -/
theorem Conversion.percent_not_mem_body {cs rest : List Char} {v : Conversion}
    (h : Conversion.read? cs = some (v, rest)) : '%' ∉ v.body := by
  obtain ⟨hsplit, hflags, hwidth, hprecision⟩ := parts_of_read? h
  have hposition : '%' ∉ positionChars v.position := by
    intro hmem
    cases hp : v.position with
    | none =>
        rw [hp] at hmem
        cases hmem
    | some ds =>
        rw [hp, positionChars, List.mem_append, List.mem_singleton] at hmem
        have hdigits := (digits_of_splitPosition ((congrArg Prod.fst hsplit).trans hp)).2
        rcases hmem with hmem | hmem
        · exact absurd (hdigits _ hmem) (by decide)
        · exact absurd hmem (by decide)
  simp only [body, List.mem_append, not_or]
  refine ⟨⟨⟨hposition, fun hmem => ?_⟩, fun hmem => ?_⟩, fun hmem => ?_⟩
  · exact absurd (hflags _ hmem) (by decide)
  · exact absurd (hwidth _ hmem) (by decide)
  · exact absurd (hprecision _ hmem) (by decide)

/-- No digit is the letter of a placeholder. -/
theorem not_placeholderLetter_of_isDigit {d : Char} (h : d.isDigit = true) :
    d ∉ placeholderLetters := by
  have hletters : placeholderLetters.all (fun c => !c.isDigit) = true := by decide
  intro hmem
  have hd := List.all_eq_true.1 hletters d hmem
  rw [h] at hd
  cases hd

/-- **Where a conversion starts, a placeholder is met** exactly when the conversion has a
placeholder's letter and nothing stands between its position and that letter. -/
theorem read?_eq_of_conversion {cs rest : List Char} {v : Conversion}
    (h : Conversion.read? cs = some (v, rest)) :
    Placeholder.read? cs =
      if v.isPadded = false ∧ placeholderLetters.contains v.letter = true then
        some (v.placeholder, rest)
      else none := by
  obtain ⟨hsplit, hflags, hwidth, hprecision⟩ := Conversion.parts_of_read? h
  obtain ⟨position, flags, width, precision, letter⟩ := v
  dsimp only at hsplit hflags hwidth hprecision
  rw [Placeholder.read?_eq, hsplit]
  dsimp only
  match flags, width, precision with
  | f :: flags, _, _ =>
    have hf : f ∉ placeholderLetters := by
      have hflag := hflags f List.mem_cons_self
      simp only [isFlag, List.contains_eq_mem, List.mem_cons, List.not_mem_nil, or_false,
        decide_eq_true_eq] at hflag
      rcases hflag with rfl | rfl | rfl | rfl | rfl <;> decide
    simp [Conversion.isPadded, hf]
  | [], d :: width, _ =>
    have hd := not_placeholderLetter_of_isDigit (hwidth d List.mem_cons_self)
    simp [Conversion.isPadded, hd]
  | [], [], some ds =>
    have hpoint : '.' ∉ placeholderLetters := by decide
    simp [Conversion.isPadded, Conversion.precisionChars, hpoint]
  | [], [], none =>
    simp [Conversion.isPadded, Conversion.precisionChars, Conversion.placeholder]

/-! ## The two scans -/

def Piece.chars : Piece → List Char
  | .literal c => [c]
  | .conversion v => v.chars
  | .dangling _ => ['%']

/-- The conversions among some pieces, with the offsets at which they start. -/
def conversionsFrom (offset : Nat) : List Piece → List (Nat × Conversion)
  | [] => []
  | .conversion v :: ps => (offset, v) :: conversionsFrom (offset + v.chars.length) ps
  | p :: ps => conversionsFrom (offset + p.chars.length) ps

/-- The conversions of a template, with the offsets at which they start. -/
def conversions (cs : List Char) : List (Nat × Conversion) := conversionsFrom 0 (pieces cs)

/-- Every placeholder that was met, a pair of percent signs apart, is a conversion that starts at
the same offset, with the same position and letter and no other characters. -/
def Aligned (met : List (Nat × Placeholder)) (found : List (Nat × Conversion)) : Prop :=
  ∀ o p, (o, p) ∈ met → p ≠ .literalPercent →
    ∃ v, (o, v) ∈ found ∧ v.position = p.position ∧ v.letter = p.letter ∧ v.chars = p.chars

/-- Whether some characters start with a placeholder when a percent sign precedes them. -/
def startsPlaceholder (cs : List Char) : Bool :=
  match Placeholder.read? cs with
  | some (p, _) => p ≠ .literalPercent
  | none => false

/-- Whether the last character of a piece is a loose percent sign, one that the scan for
placeholders has not taken as the end of anything: that of a padded conversion, or of any that
follows a loose percent sign. -/
def Piece.endsLoose (loose : Bool) : Piece → Bool
  | .conversion v => v.letter = '%' && (loose || v.isPadded)
  | _ => false

/-- Whether a loose percent sign comes right before what reads as a placeholder; `loose` tells
whether one precedes the pieces. -/
def swallows (loose : Bool) : List Piece → Bool
  | [] => false
  | p :: ps => (loose && startsPlaceholder ((p :: ps).flatMap Piece.chars)) ||
      swallows (p.endsLoose loose) ps

/-! ### Steps -/

theorem occurrencesFrom_skip (offset : Nat) (xs rest : List Char) :
    occurrencesFrom offset xs.length (xs ++ rest) =
      occurrencesFrom (offset + xs.length) 0 rest := by
  induction xs generalizing offset with
  | nil => rfl
  | cons x xs ih =>
      rw [List.cons_append, List.length_cons, occurrencesFrom, ih]
      congr 1
      omega

theorem piecesFrom_skip (offset : Nat) (xs rest : List Char) :
    piecesFrom offset xs.length (xs ++ rest) = piecesFrom (offset + xs.length) 0 rest := by
  induction xs generalizing offset with
  | nil => rfl
  | cons x xs ih =>
      rw [List.cons_append, List.length_cons, piecesFrom, ih]
      congr 1
      omega

/-- Where no percent sign stands, no placeholder is met. -/
theorem occurrencesFrom_plain (offset : Nat) {xs : List Char} (h : '%' ∉ xs) (rest : List Char) :
    occurrencesFrom offset 0 (xs ++ rest) = occurrencesFrom (offset + xs.length) 0 rest := by
  induction xs generalizing offset with
  | nil => rfl
  | cons x xs ih =>
      rw [List.mem_cons, not_or] at h
      rw [List.cons_append, occurrencesFrom, if_neg (Ne.symm h.1), ih _ h.2, List.length_cons]
      congr 1
      omega

/-- A percent sign that starts no placeholder is passed over alone. -/
theorem occurrencesFrom_passed (offset : Nat) {cs : List Char} (h : Placeholder.read? cs = none) :
    occurrencesFrom offset 0 ('%' :: cs) = occurrencesFrom (offset + 1) 0 cs := by
  rw [occurrencesFrom, if_pos rfl, h]

/-- A placeholder that is met is passed over as a whole. -/
theorem occurrencesFrom_met (offset : Nat) {cs rest : List Char} {p : Placeholder}
    (h : Placeholder.read? cs = some (p, rest)) :
    occurrencesFrom offset 0 ('%' :: cs) =
      (offset, p) :: occurrencesFrom (offset + p.chars.length) 0 rest := by
  have hcs : cs = (positionChars p.position ++ [p.letter]) ++ rest := by
    have heq := Placeholder.eq_of_read? h
    rw [Placeholder.chars, List.cons_append, List.cons_append] at heq
    exact List.tail_eq_of_cons_eq heq
  have hlength : p.chars.length - 1 = (positionChars p.position ++ [p.letter]).length := by
    simp [Placeholder.chars]
  rw [occurrencesFrom, if_pos rfl, h]
  dsimp only
  rw [hlength, hcs, occurrencesFrom_skip]
  congr 2
  simp [Placeholder.chars]
  omega

/-- A conversion is one piece, and the scan goes on behind it. -/
theorem piecesFrom_conversion (offset : Nat) {cs rest : List Char} {v : Conversion}
    (h : Conversion.read? cs = some (v, rest)) :
    piecesFrom offset 0 ('%' :: cs) =
      .conversion v :: piecesFrom (offset + v.chars.length) 0 rest := by
  have hcs : cs = (v.body ++ [v.letter]) ++ rest := by
    have heq := Conversion.eq_of_read? h
    rw [Conversion.chars_eq, List.cons_append] at heq
    exact List.tail_eq_of_cons_eq heq
  have hlength : v.chars.length - 1 = (v.body ++ [v.letter]).length := by
    rw [Conversion.chars_eq, List.length_cons, Nat.add_sub_cancel]
  rw [piecesFrom, if_pos rfl, h]
  dsimp only
  rw [hlength, hcs, piecesFrom_skip]
  congr 2
  rw [Conversion.chars_eq, List.length_cons]
  omega

/-- A character that is no percent sign is a piece of its own. -/
theorem piecesFrom_literal (offset : Nat) {c : Char} (hc : c ≠ '%') (cs : List Char) :
    piecesFrom offset 0 (c :: cs) = .literal c :: piecesFrom (offset + 1) 0 cs := by
  rw [piecesFrom, if_neg hc]

/-- A percent sign that starts no conversion is the last piece. -/
theorem piecesFrom_dangling (offset : Nat) {cs : List Char} (h : Conversion.read? cs = none) :
    piecesFrom offset 0 ('%' :: cs) = [.dangling offset] := by
  rw [piecesFrom, if_pos rfl, h]

theorem length_lt_of_read? {cs rest : List Char} {v : Conversion}
    (h : Conversion.read? cs = some (v, rest)) : rest.length < cs.length := by
  have heq := congrArg List.length (Conversion.eq_of_read? h)
  rw [Conversion.chars_eq] at heq
  simp only [List.length_cons, List.length_append] at heq
  omega

/-- **Induction along the scan**: over the characters that stand for themselves and the conversions,
up to the end of the template or a percent sign that starts no conversion. -/
@[elab_as_elim]
theorem scan_induction {motive : List Char → Prop} (cs : List Char) (nil : motive [])
    (literal : ∀ {c cs}, c ≠ '%' → motive cs → motive (c :: cs))
    (dangling : ∀ {cs}, Conversion.read? cs = none → motive ('%' :: cs))
    (conversion : ∀ {v cs rest}, Conversion.read? cs = some (v, rest) → motive rest →
      motive ('%' :: cs)) : motive cs := by
  -- a conversion takes several characters at once, so the induction is on the length
  induction hn : cs.length using Nat.strongRecOn generalizing cs with
  | ind n ih =>
      subst hn
      cases cs with
      | nil => exact nil
      | cons c cs =>
          by_cases hc : c = '%'
          · subst hc
            cases hv : Conversion.read? cs with
            | none => exact dangling hv
            | some found =>
                exact conversion hv (ih _ (Nat.lt_succ_of_lt (length_lt_of_read? hv)) _ rfl)
          · exact literal hc (ih cs.length (Nat.lt_succ_self _) cs rfl)

/-! ### Templates without a dangling percent sign -/

/-- The scan of a template in which every percent sign it meets starts a conversion. -/
inductive Scanned : List Char → List Piece → Prop where
  | nil : Scanned [] []
  | literal {c : Char} {cs : List Char} {ps : List Piece} (hc : c ≠ '%') (h : Scanned cs ps) :
      Scanned (c :: cs) (.literal c :: ps)
  | conversion {v : Conversion} {cs rest : List Char} {ps : List Piece}
      (hv : Conversion.read? cs = some (v, rest)) (h : Scanned rest ps) :
      Scanned ('%' :: cs) (.conversion v :: ps)

theorem scanned_piecesFrom (offset : Nat) (cs : List Char)
    (h : ∀ o, Piece.dangling o ∉ piecesFrom offset 0 cs) :
    Scanned cs (piecesFrom offset 0 cs) := by
  induction cs using scan_induction generalizing offset with
  | nil => exact .nil
  | literal hc ih =>
      rw [piecesFrom_literal offset hc] at h ⊢
      exact .literal hc (ih _ fun o hmem => h o (List.mem_cons_of_mem _ hmem))
  | dangling hv =>
      rw [piecesFrom_dangling offset hv] at h
      exact absurd List.mem_cons_self (h offset)
  | conversion hv ih =>
      rw [piecesFrom_conversion offset hv] at h ⊢
      exact .conversion hv (ih _ fun o hmem => h o (List.mem_cons_of_mem _ hmem))

/-- The pieces of a text are written as the text. -/
theorem Scanned.flatMap_chars {cs : List Char} {ps : List Piece} (h : Scanned cs ps) :
    ps.flatMap Piece.chars = cs := by
  induction h with
  | nil => rfl
  | literal _ _ ih => rw [List.flatMap_cons, ih]; rfl
  | conversion hv _ ih => rw [List.flatMap_cons, ih, Conversion.eq_of_read? hv]; rfl

/-! ### In step and out of step -/

/-- Placeholders are found at or behind the place where the search starts. -/
theorem le_of_mem_occurrencesFrom {offset skip o : Nat} {cs : List Char} {p : Placeholder}
    (h : (o, p) ∈ occurrencesFrom offset skip cs) : offset ≤ o := by
  induction cs generalizing offset skip with
  | nil => cases skip <;> cases h
  | cons c cs ih =>
      cases skip with
      | succ skip => exact Nat.le_of_succ_le (ih h)
      | zero =>
          rw [occurrencesFrom] at h
          split at h
          · split at h
            · rcases List.mem_cons.1 h with heq | h
              · cases heq
                exact Nat.le_refl _
              · exact Nat.le_of_succ_le (ih h)
            · exact Nat.le_of_succ_le (ih h)
          · exact Nat.le_of_succ_le (ih h)

/-- So are conversions. -/
theorem le_of_mem_conversionsFrom {offset o : Nat} {ps : List Piece} {v : Conversion}
    (h : (o, v) ∈ conversionsFrom offset ps) : offset ≤ o := by
  induction ps generalizing offset with
  | nil => cases h
  | cons p ps ih =>
      cases p with
      | literal c => exact Nat.le_trans (Nat.le_add_right _ _) (ih h)
      | dangling _ => exact Nat.le_trans (Nat.le_add_right _ _) (ih h)
      | conversion w =>
          rcases List.mem_cons.1 h with heq | h
          · cases heq
            exact Nat.le_refl _
          · exact Nat.le_trans (Nat.le_add_right _ _) (ih h)

variable {met : List (Nat × Placeholder)} {found : List (Nat × Conversion)}

/-- A conversion before everything that was met aligns nothing. -/
theorem aligned_cons_found {o : Nat} {v : Conversion} (h : ∀ e ∈ met, o < e.1) :
    Aligned met ((o, v) :: found) ↔ Aligned met found := by
  constructor
  · intro hall o' p hmem hp
    obtain ⟨w, hw, hsame⟩ := hall o' p hmem hp
    rcases List.mem_cons.1 hw with heq | hw
    · cases heq
      exact absurd (h _ hmem) (Nat.lt_irrefl _)
    · exact ⟨w, hw, hsame⟩
  · intro hall o' p hmem hp
    obtain ⟨w, hw, hsame⟩ := hall o' p hmem hp
    exact ⟨w, List.mem_cons_of_mem _ hw, hsame⟩

/-- A placeholder that has its conversion makes no difference to the alignment of the others. -/
theorem aligned_cons_met {o : Nat} {p : Placeholder}
    (h : p ≠ .literalPercent →
      ∃ v, (o, v) ∈ found ∧ v.position = p.position ∧ v.letter = p.letter ∧ v.chars = p.chars) :
    Aligned ((o, p) :: met) found ↔ Aligned met found := by
  constructor
  · exact fun hall o' p' hmem hp => hall o' p' (List.mem_cons_of_mem _ hmem) hp
  · intro hall o' p' hmem hp
    rcases List.mem_cons.1 hmem with heq | hmem
    · cases heq
      exact h hp
    · exact hall o' p' hmem hp

/-- A pair of percent signs is met as one. -/
theorem read?_percent (cs : List Char) :
    Placeholder.read? ('%' :: cs) = some (.literalPercent, cs) := by
  have hsplit : splitPosition ('%' :: cs) = (none, '%' :: cs) := rfl
  have hletter : placeholderLetters.contains '%' = true := by decide
  rw [Placeholder.read?_eq, hsplit]
  dsimp only
  rw [hletter]
  rfl

theorem startsPlaceholder_percent (cs : List Char) : startsPlaceholder ('%' :: cs) = false := by
  rw [startsPlaceholder, read?_percent]
  rfl

/-- Only a percent sign right after the first one makes a pair. -/
theorem ne_literalPercent {c : Char} (hc : c ≠ '%') {cs rest : List Char} {p : Placeholder}
    (h : Placeholder.read? (c :: cs) = some (p, rest)) : p ≠ .literalPercent := by
  rintro rfl
  have heq := Placeholder.eq_of_read? h
  exact hc (List.cons_eq_cons.1 (List.tail_eq_of_cons_eq heq)).1

/-- Inside a conversion no placeholder is met before its letter.  At the letter the scan is in step
again, or before a loose percent sign. -/
theorem occurrencesFrom_inside (offset : Nat) {cs rest : List Char} {v : Conversion}
    (h : Conversion.read? cs = some (v, rest)) :
    occurrencesFrom (offset + 1) 0 cs =
      if v.letter = '%' then occurrencesFrom (offset + v.body.length + 1) 0 ('%' :: rest)
      else occurrencesFrom (offset + v.body.length + 2) 0 rest := by
  have hcs : cs = v.body ++ v.letter :: rest := by
    have heq := Conversion.eq_of_read? h
    rw [Conversion.chars_eq, List.cons_append, List.append_assoc] at heq
    exact List.tail_eq_of_cons_eq heq
  rw [hcs, occurrencesFrom_plain _ (Conversion.percent_not_mem_body h),
    show offset + 1 + v.body.length = offset + v.body.length + 1 by omega]
  split
  · next hletter => rw [hletter]
  · next hletter => rw [occurrencesFrom, if_neg hletter]

/-- What `swallows` says of a scan that starts at an offset, in step or before a loose percent sign;
in step both scans are at the same character, before a loose percent sign the scan for placeholders
is one character behind. -/
def Decides (cs : List Char) (ps : List Piece) (offset : Nat) : Prop :=
  (Aligned (occurrencesFrom offset 0 cs) (conversionsFrom offset ps) ↔
    swallows false ps = false) ∧
  (Aligned (occurrencesFrom offset 0 ('%' :: cs)) (conversionsFrom (offset + 1) ps) ↔
    swallows true ps = false)

theorem decides_nil (offset : Nat) : Decides [] [] offset := by
  have hnone : Placeholder.read? [] = none := rfl
  rw [Decides, occurrencesFrom_passed offset hnone]
  simp [Aligned, occurrencesFrom, swallows]

theorem decides_literal {c : Char} {cs : List Char} {ps : List Piece} (hc : c ≠ '%')
    (hscanned : Scanned cs ps) (ih : ∀ offset, Decides cs ps offset) (offset : Nat) :
    Decides (c :: cs) (.literal c :: ps) offset := by
  have hfound : ∀ o, conversionsFrom o (.literal c :: ps) = conversionsFrom (o + 1) ps :=
    fun _ => rfl
  have hmet : ∀ o, occurrencesFrom o 0 (c :: cs) = occurrencesFrom (o + 1) 0 cs := by
    intro o
    rw [occurrencesFrom, if_neg hc]
  have hchars : (Piece.literal c :: ps).flatMap Piece.chars = c :: cs :=
    (Scanned.literal hc hscanned).flatMap_chars
  have hswallows : ∀ loose, swallows loose (.literal c :: ps) =
      ((loose && startsPlaceholder (c :: cs)) || swallows false ps) := by
    intro loose
    rw [swallows, hchars]
    rfl
  refine ⟨?_, ?_⟩
  · rw [hmet, hfound, hswallows, Bool.false_and, Bool.false_or]
    exact (ih (offset + 1)).1
  · rw [hswallows, Bool.true_and]
    cases hp : Placeholder.read? (c :: cs) with
    | none =>
        have hstarts : startsPlaceholder (c :: cs) = false := by rw [startsPlaceholder, hp]
        rw [occurrencesFrom_passed offset hp, hmet, hfound, hstarts, Bool.false_or]
        exact (ih (offset + 1 + 1)).1
    | some result =>
        obtain ⟨p, rest⟩ := result
        have hne := ne_literalPercent hc hp
        have hstarts : startsPlaceholder (c :: cs) = true := by
          rw [startsPlaceholder, hp]
          simpa using hne
        rw [hstarts, Bool.true_or, occurrencesFrom_met offset hp]
        -- the placeholder starts where no conversion does
        refine iff_of_false (fun hall => ?_) (by decide)
        obtain ⟨v, hv, -⟩ := hall offset p List.mem_cons_self hne
        exact absurd (le_of_mem_conversionsFrom hv) (by omega)

/-- The same decision for the scan that has taken the first percent sign of a conversion alone. -/
theorem decides_inside {v : Conversion} {cs rest : List Char} {ps : List Piece}
    (hv : Conversion.read? cs = some (v, rest)) (ih : ∀ offset, Decides rest ps offset)
    (offset : Nat) :
    Aligned (occurrencesFrom (offset + 1) 0 cs) (conversionsFrom offset (.conversion v :: ps)) ↔
      swallows (v.letter = '%') ps = false := by
  have hlength : v.chars.length = v.body.length + 2 := by
    rw [Conversion.chars_eq]
    simp
  have hfound : conversionsFrom offset (.conversion v :: ps) =
      (offset, v) :: conversionsFrom (offset + v.body.length + 2) ps := by
    rw [conversionsFrom, hlength, Nat.add_assoc]
  rw [hfound, aligned_cons_found fun e he => le_of_mem_occurrencesFrom he,
    occurrencesFrom_inside offset hv]
  split
  · next hletter =>
    rw [decide_eq_true hletter]
    exact (ih (offset + v.body.length + 1)).2
  · next hletter =>
    rw [decide_eq_false hletter]
    exact (ih (offset + v.body.length + 2)).1

theorem decides_conversion {v : Conversion} {cs rest : List Char} {ps : List Piece}
    (hv : Conversion.read? cs = some (v, rest)) (hscanned : Scanned rest ps)
    (ih : ∀ offset, Decides rest ps offset) (offset : Nat) :
    Decides ('%' :: cs) (.conversion v :: ps) offset := by
  have hchars : (Piece.conversion v :: ps).flatMap Piece.chars = '%' :: cs :=
    (Scanned.conversion hv hscanned).flatMap_chars
  have hswallows : ∀ loose, swallows loose (.conversion v :: ps) =
      swallows (v.letter = '%' && (loose || v.isPadded)) ps := by
    intro loose
    rw [swallows, hchars, startsPlaceholder_percent, Bool.and_false, Bool.false_or]
    rfl
  have hread := read?_eq_of_conversion hv
  refine ⟨?_, ?_⟩
  · rw [hswallows, Bool.false_or]
    split at hread
    · next hmet =>
      -- both scans take the conversion as a whole
      have hsame := Conversion.chars_placeholder hmet.1
      rw [occurrencesFrom_met offset hread, hsame, hmet.1, Bool.and_false,
        conversionsFrom, aligned_cons_met fun _ => ⟨v, List.mem_cons_self, rfl, rfl, hsame.symm⟩,
        aligned_cons_found fun e he => ?_]
      · exact (ih (offset + v.chars.length)).1
      · have hle := le_of_mem_occurrencesFrom he
        rw [Conversion.chars_eq, List.length_cons] at hle
        omega
    · next hpassed =>
      have hloose : (decide (v.letter = '%') && v.isPadded) = decide (v.letter = '%') := by
        by_cases hletter : v.letter = '%'
        · have hknown : placeholderLetters.contains v.letter = true := by
            rw [hletter]
            decide
          cases hpadded : v.isPadded with
          | true => rw [Bool.and_true]
          | false => exact absurd ⟨hpadded, hknown⟩ hpassed
        · rw [decide_eq_false hletter, Bool.false_and]
      rw [hloose, occurrencesFrom_passed offset hread]
      exact decides_inside hv ih offset
  · rw [hswallows, Bool.true_or, Bool.and_true, occurrencesFrom_met offset (read?_percent cs),
      aligned_cons_met fun hp => absurd rfl hp]
    exact decides_inside hv ih (offset + 1)

/-- **The scans fall out of step exactly at a loose percent sign** that reads as the start of a
placeholder. -/
theorem decides_of_scanned {cs : List Char} {ps : List Piece} (h : Scanned cs ps) (offset : Nat) :
    Decides cs ps offset := by
  induction h generalizing offset with
  | nil => exact decides_nil offset
  | literal hc hscanned ih => exact decides_literal hc hscanned ih offset
  | conversion hv hscanned ih => exact decides_conversion hv hscanned ih offset

/-! ## Filled templates -/

/-- Pieces that can be filled do not dangle. -/
theorem not_dangling_of_fillPieces {args : List Value} {next : Nat} {ps : List Piece}
    {cs : List Char} (h : fillPieces args next ps = .ok cs) : ∀ o, Piece.dangling o ∉ ps := by
  induction ps generalizing next cs with
  | nil => exact fun _ => List.not_mem_nil
  | cons p ps ih =>
      intro o hmem
      cases p with
      | dangling _ => cases h
      | literal c =>
          rw [List.mem_cons] at hmem
          rw [fillPieces] at h
          split at h
          · next hrest => exact ih hrest o (hmem.resolve_left nofun)
          · cases h
      | conversion v =>
          rw [List.mem_cons] at hmem
          rw [fillPieces] at h
          split at h
          · cases h
          · split at h
            · next hrest => exact ih hrest o (hmem.resolve_left nofun)
            · cases h

/-- A template that can be filled was scanned to its end. -/
theorem scanned_of_filled {template text : String} {args : List Value}
    (h : fill template args = .ok (.filled text)) :
    Scanned template.toList (pieces template.toList) := by
  unfold fill at h
  split at h
  · next hpieces => exact scanned_piecesFrom 0 _ (not_dangling_of_fillPieces hpieces)
  · cases h
  · cases h

/-- One more member is added unless it is there already. -/
theorem distinct_concat [BEq α] (xs : List α) (x : α) :
    distinct (xs ++ [x]) = if (distinct xs).contains x then distinct xs else distinct xs ++ [x] := by
  rw [distinct, List.foldl_append]
  rfl

section Distinct

variable [BEq α] [LawfulBEq α]

/-- Repeated members are left out, and the first one of each stays in its place. -/
theorem distinct_eq_eraseDups (xs : List α) : distinct xs = xs.eraseDups := by
  induction xs using List.reverseRecOn with
  | nil => rfl
  | append_singleton xs x ih =>
      rw [distinct_concat, ih, List.eraseDups_append]
      by_cases hx : x ∈ xs <;> simp [List.removeAll, hx, List.eraseDups_cons]

theorem mem_distinct {x : α} {xs : List α} : x ∈ distinct xs ↔ x ∈ xs := by
  rw [distinct_eq_eraseDups, List.mem_eraseDups]

theorem nodup_distinct (xs : List α) : (distinct xs).Nodup := by
  induction xs using List.reverseRecOn with
  | nil => exact List.nodup_nil
  | append_singleton xs x ih =>
      rw [distinct_concat]
      split
      · exact ih
      · next hnew =>
        have hx : x ∉ distinct xs := by simpa using hnew
        exact List.nodup_append_comm.1 (List.nodup_cons.2 ⟨hx, ih⟩)

end Distinct

/-- In step, every listed placeholder is a conversion. -/
theorem exists_conversion_of_aligned {template token : String}
    (h : Aligned (occurrences template.toList) (conversions template.toList))
    (htoken : token ∈ placeholders template) :
    ∃ o v, (o, v) ∈ conversions template.toList ∧ String.ofList v.chars = token := by
  obtain ⟨p, hp, rfl⟩ := List.mem_map.1 (mem_distinct.1 htoken)
  obtain ⟨hmet, hne⟩ := List.mem_filter.1 hp
  obtain ⟨⟨o, p⟩, hmem, rfl⟩ := List.mem_map.1 hmet
  obtain ⟨v, hv, -, -, hchars⟩ := h o p hmem (of_decide_eq_true hne)
  exact ⟨o, v, hv, congrArg String.ofList hchars⟩

/-- **When a template is filled**, its placeholders are conversions of it, at the same offsets and
of the same characters, exactly when no loose percent sign comes right before what reads as a
placeholder.  Then none of the listed placeholders is left in the text. -/
theorem aligned_iff_of_filled {template text : String} {args : List Value}
    (h : fill template args = .ok (.filled text)) :
    (Aligned (occurrences template.toList) (conversions template.toList) ↔
      swallows false (pieces template.toList) = false) ∧
    (swallows false (pieces template.toList) = false → ∀ token ∈ placeholders template,
      ∃ o v, (o, v) ∈ conversions template.toList ∧ String.ofList v.chars = token) := by
  have hiff := (decides_of_scanned (scanned_of_filled h) 0).1
  exact ⟨hiff, fun hno _ => exists_conversion_of_aligned (hiff.2 hno)⟩

theorem aligned_doubled_percent :
    fill "100%% of %2$d" [.int 5, .int 7] = .ok (.filled "100% of 7") ∧
      Aligned (occurrences "100%% of %2$d".toList) (conversions "100%% of %2$d".toList) ∧
      placeholders "100%% of %2$d" = ["%2$d"] := by
  have hfill : fill "100%% of %2$d" [.int 5, .int 7] = .ok (.filled "100% of 7") := rfl
  exact ⟨hfill, (aligned_iff_of_filled hfill).1.2 (by decide), by decide⟩

/-- A percent sign with a blank before it swallows the placeholder that follows. -/
theorem not_aligned_padded_percent :
    fill "% %d" [.int 5] = .ok (.filled "%d") ∧ placeholders "% %d" = ["%d"] ∧
      ¬ Aligned (occurrences "% %d".toList) (conversions "% %d".toList) := by
  refine ⟨rfl, by decide, fun h => ?_⟩
  obtain ⟨v, hv, -⟩ := h 2 ⟨none, 'd'⟩ (by decide) (by decide)
  have hconversions : conversions "% %d".toList = [(0, ⟨none, [' '], [], none, '%'⟩)] := by decide
  rw [hconversions] at hv
  cases List.mem_singleton.1 hv

end StringCatalog.Template
