import StringCatalog.Proofs.Filling
import StringCatalog.Proofs.SafeNames

/-!
# StringCatalog.Proofs.Conversions

A conversion is read from its own characters alone: each of its parts ends
where the next one starts, and the letter ends them all, so what follows the
letter has no influence on the conversion.

* `Conversion.read?_eq_some_iff` — what is read is what is written, in one way
  only (`Conversion.Legible`);
* `Conversion.read?_append` — more characters at the end change nothing;
* `Conversion.Legible.positioned` — another position leaves the rest legible.
-/

namespace StringCatalog.Template

/-- The longest start of some characters in a class, when the next character is not in it. -/
theorem takeWhile_append_stop {p : Char → Bool} {xs ys : List Char} (hxs : ∀ x ∈ xs, p x = true)
    (hys : ∀ y, ys.head? = some y → p y = false) :
    (xs ++ ys).takeWhile p = xs ∧ (xs ++ ys).dropWhile p = ys := by
  rw [List.takeWhile_append_of_pos hxs, List.dropWhile_append_of_pos hxs]
  cases ys with
  | nil => simp
  | cons y ys => simp [hys y rfl]

namespace Conversion

/-- Some digits, at least one. -/
def IsDigits (ds : List Char) : Prop := ds ≠ [] ∧ ∀ d ∈ ds, d.isDigit = true

/-- Whether the parts of a conversion are such that each is read as itself: a zero at the start of
a width would be a flag. -/
structure Legible (v : Conversion) : Prop where
  position : ∀ ds, v.position = some ds → IsDigits ds
  flags : ∀ c ∈ v.flags, isFlag c = true
  width : ∀ d ∈ v.width, d.isDigit = true
  width_head : v.width.head? ≠ some '0'
  precision : ∀ ds, v.precision = some ds → IsDigits ds
  letter : isConversionLetter v.letter = true

variable {v : Conversion}

/-! ## Where the parts end -/

theorem isFlag_eq_true_iff {c : Char} :
    isFlag c = true ↔ c = '-' ∨ c = '#' ∨ c = '+' ∨ c = ' ' ∨ c = '0' := by
  simp [isFlag]

/-- A digit that is a flag is a zero. -/
theorem isFlag_of_isDigit {c : Char} (hdigit : c.isDigit = true) (hzero : c ≠ '0') :
    isFlag c = false := by
  cases hflag : isFlag c with
  | false => rfl
  | true =>
      rcases isFlag_eq_true_iff.1 hflag with rfl | rfl | rfl | rfl | rfl
      all_goals first | exact absurd hdigit (by decide) | exact absurd rfl hzero

/-- Conversion letters are ASCII. -/
theorem lt_of_isConversionLetter {c : Char} (h : isConversionLetter c = true) : c.toNat < 128 := by
  rw [isConversionLetter, Bool.or_eq_true, decide_eq_true_eq] at h
  rcases h with h | rfl
  · exact lt_of_isAlphanum (Bool.or_eq_true_iff.2 (.inl h))
  · decide

/-- A letter is of none of the other classes. -/
theorem of_isConversionLetter {c : Char} (h : isConversionLetter c = true) :
    c.isDigit = false ∧ isFlag c = false ∧ c ≠ '.' ∧ c ≠ '$' :=
  forall_ascii (p := fun c => isConversionLetter c = true →
    c.isDigit = false ∧ isFlag c = false ∧ c ≠ '.' ∧ c ≠ '$') (by decide)
    (lt_of_isConversionLetter h) h

/-- A precision is read back before any character that could not belong to it. -/
theorem readPrecision_append {precision : Option (List Char)}
    (hprecision : ∀ ds, precision = some ds → IsDigits ds) {c : Char} (hdigit : c.isDigit = false)
    (hpoint : c ≠ '.') (rest : List Char) :
    readPrecision (precisionChars precision ++ c :: rest) = (precision, c :: rest) := by
  cases precision with
  | none =>
      unfold readPrecision precisionChars
      split
      · next heq => simp_all
      · rfl
  | some ds =>
      obtain ⟨hne, hdigits⟩ := hprecision ds rfl
      have hstop : ∀ y, (c :: rest).head? = some y → y.isDigit = false := by simp [hdigit]
      obtain ⟨htake, hdrop⟩ := takeWhile_append_stop hdigits hstop
      rw [precisionChars, List.cons_append, readPrecision, htake, hdrop]
      cases ds with
      | nil => exact absurd rfl hne
      | cons d ds => rfl

/-- Digits that no dollar sign follows are no position. -/
theorem readPosition?_eq_none {cs : List Char} (h : (cs.dropWhile Char.isDigit).head? ≠ some '$') :
    readPosition? cs = none := by
  unfold readPosition?
  split
  · next hdrop => simp [hdrop] at h
  · rfl

/-- Digits in front of anything but a dollar sign are no position. -/
theorem head?_dropWhile_ne_dollar {xs : List Char} (hxs : '$' ∉ xs) {c : Char}
    (hdigit : c.isDigit = false) (hdollar : c ≠ '$') (rest : List Char) :
    ((xs ++ c :: rest).dropWhile Char.isDigit).head? ≠ some '$' := by
  induction xs with
  | nil => simpa [hdigit] using hdollar
  | cons x xs ih =>
      rw [List.mem_cons, not_or] at hxs
      rw [List.cons_append, List.dropWhile_cons]
      split
      · exact ih hxs.2
      · simpa using Ne.symm hxs.1

namespace Legible

/-- There is no dollar sign among flags, width and precision. -/
theorem dollar_not_mem (h : v.Legible) :
    '$' ∉ v.flags ++ (v.width ++ precisionChars v.precision) := by
  have hprecision : '$' ∉ precisionChars v.precision := by
    cases hp : v.precision with
    | none => simp [precisionChars]
    | some ds =>
        have hds : '$' ∉ ds := fun hmem => absurd ((h.precision ds hp).2 _ hmem) (by decide)
        simp [precisionChars, hds]
  have hflags : '$' ∉ v.flags := fun hmem => absurd (h.flags _ hmem) (by decide)
  have hwidth : '$' ∉ v.width := fun hmem => absurd (h.width _ hmem) (by decide)
  simp [hflags, hwidth, hprecision]

/-- A conversion that can be read falls apart into its position and the rest. -/
theorem splitPosition_eq (h : v.Legible) (rest : List Char) :
    splitPosition (v.body ++ v.letter :: rest) =
      (v.position, v.flags ++ (v.width ++ (precisionChars v.precision ++ v.letter :: rest))) := by
  obtain ⟨hdigit, -, -, hdollar⟩ := of_isConversionLetter h.letter
  unfold splitPosition body
  cases hposition : v.position with
  | none =>
      have hnone := readPosition?_eq_none
        (head?_dropWhile_ne_dollar h.dollar_not_mem hdigit hdollar rest)
      simp only [List.append_assoc] at hnone
      simp only [positionChars, List.nil_append, List.append_assoc, hnone]
  | some ds =>
      obtain ⟨hne, hdigits⟩ := h.position ds hposition
      simp only [positionChars, List.append_assoc, List.cons_append, List.nil_append,
        readPosition?_append hne hdigits]

/-- After the flags comes no further flag. -/
theorem head?_ne_flag (h : v.Legible) (rest : List Char) (c : Char)
    (hc : (v.width ++ (precisionChars v.precision ++ v.letter :: rest)).head? = some c) :
    isFlag c = false := by
  cases hwidth : v.width with
  | cons d ds =>
      have hdigit := h.width d (by simp [hwidth])
      have hzero : d ≠ '0' := by simpa [hwidth] using h.width_head
      have hd : d = c := by simpa [hwidth] using hc
      exact hd ▸ isFlag_of_isDigit hdigit hzero
  | nil =>
      cases hprecision : v.precision with
      | some ds =>
          simp only [hwidth, hprecision, precisionChars, List.nil_append, List.cons_append,
            List.head?_cons, Option.some.injEq] at hc
          exact hc ▸ by decide
      | none =>
          simp only [hwidth, hprecision, precisionChars, List.nil_append, List.head?_cons,
            Option.some.injEq] at hc
          exact hc ▸ (of_isConversionLetter h.letter).2.1

/-- After the width comes no further digit. -/
theorem head?_ne_digit (h : v.Legible) (rest : List Char) (c : Char)
    (hc : (precisionChars v.precision ++ v.letter :: rest).head? = some c) :
    c.isDigit = false := by
  cases hprecision : v.precision with
  | some ds =>
      simp only [hprecision, precisionChars, List.cons_append, List.head?_cons,
        Option.some.injEq] at hc
      exact hc ▸ by decide
  | none =>
      simp only [hprecision, precisionChars, List.nil_append, List.head?_cons,
        Option.some.injEq] at hc
      exact hc ▸ (of_isConversionLetter h.letter).1

/-- A legible conversion is read as it is written, whatever follows. -/
theorem read?_eq (h : v.Legible) (rest : List Char) :
    read? (v.body ++ v.letter :: rest) = some (v, rest) := by
  obtain ⟨hdigit, -, hpoint, -⟩ := of_isConversionLetter h.letter
  obtain ⟨htakeFlags, hdropFlags⟩ := takeWhile_append_stop h.flags (h.head?_ne_flag rest)
  obtain ⟨htakeWidth, hdropWidth⟩ := takeWhile_append_stop h.width (h.head?_ne_digit rest)
  rw [Conversion.read?_eq, h.splitPosition_eq rest, htakeFlags, hdropFlags, htakeWidth, hdropWidth,
    readPrecision_append h.precision hdigit hpoint]
  dsimp only
  rw [if_pos h.letter]

end Legible

/-! ## What is read -/

/-- The digits behind the flags do not start with zero, which is a flag itself. -/
theorem head?_dropWhile_flag (cs : List Char) :
    ((cs.dropWhile isFlag).takeWhile Char.isDigit).head? ≠ some '0' := by
  have hhead := List.head?_dropWhile_not isFlag cs
  intro h
  rw [List.head?_takeWhile, Option.filter_eq_some_iff] at h
  rw [h.1] at hhead
  exact absurd hhead (by decide)

/-- What is read can be read again. -/
theorem legible_of_read? {cs rest : List Char} (h : read? cs = some (v, rest)) : v.Legible := by
  rw [read?_eq] at h
  split at h
  · split at h
    · next hletter =>
      cases h
      exact {
        position := fun _ => digits_of_splitPosition
        flags := List.all_eq_true.1 List.all_takeWhile
        width := List.all_eq_true.1 List.all_takeWhile
        width_head := head?_dropWhile_flag _
        precision := fun _ => digits_of_readPrecision
        letter := hletter }
    · cases h
  · cases h

/-- **A conversion is read exactly where it is written**, and only legible ones are read. -/
theorem read?_eq_some_iff {cs rest : List Char} :
    read? cs = some (v, rest) ↔ v.Legible ∧ cs = v.body ++ v.letter :: rest := by
  constructor
  · intro h
    have heq := eq_of_read? h
    rw [chars_eq, List.cons_append, List.append_assoc] at heq
    exact ⟨legible_of_read? h, List.tail_eq_of_cons_eq heq⟩
  · rintro ⟨h, rfl⟩
    exact h.read?_eq rest

/-- What follows a conversion has no influence on it. -/
theorem read?_append {cs rest : List Char} (h : read? cs = some (v, rest)) (more : List Char) :
    read? (cs ++ more) = some (v, rest ++ more) := by
  obtain ⟨hlegible, rfl⟩ := read?_eq_some_iff.1 h
  exact read?_eq_some_iff.2 ⟨hlegible, by simp⟩

/-- The position can be any digits. -/
theorem Legible.positioned (h : v.Legible) {ds : List Char} (hds : IsDigits ds) :
    ({ v with position := some ds } : Conversion).Legible where
  position := by
    rintro _ ⟨⟩
    exact hds
  flags := h.flags
  width := h.width
  width_head := h.width_head
  precision := h.precision
  letter := h.letter

end Conversion

end StringCatalog.Template
