import StringCatalog.Proofs.Conversions

/-!
# StringCatalog.Proofs.Addressing

A conversion refers to an argument, by its position or as the next one in turn.
Both ways of reference come to the same, and nothing else of the arguments
matters.

* `fillPieces_congr` — arguments that no conversion refers to have no influence;
* `argument_ne_none_of_fillPieces` — an argument that is referred to and missing
  keeps a template from being filled;
* `unreasoned_fillPieces_indexed` — with a position at every conversion that
  takes an argument (`indexed`), a template is filled with the same text;
* `fill_addressing` — all of this for templates.
-/

namespace StringCatalog.Template

open Number

variable {args args' : List Value} {next : Nat}

/-! ## References -/

/-- The argument of a number, counted from zero. -/
def argumentAt (args : List Value) (i : Int) : Option Value :=
  if 0 ≤ i then args[i.toNat]? else none

/-- The number of the argument that a conversion refers to: its position less one, or the number of
the next argument. -/
def Conversion.reference (next : Nat) (c : Conversion) : Int :=
  match c.position with
  | none => next
  | some ds => (countOf ds : Int) - 1

/-- The number of the argument that a piece refers to, if it takes one. -/
def Piece.references (next : Nat) : Piece → List Int
  | .conversion c => if c.takesArgument then [c.reference next] else []
  | _ => []

/-- The numbers of the arguments that some pieces refer to. -/
def referencesFrom (next : Nat) : List Piece → List Int
  | [] => []
  | p :: ps => p.references next ++ referencesFrom (p.nextAfter next) ps

/-- The numbers of the arguments that a template refers to, in the order of its conversions. -/
def references (template : String) : List Int := referencesFrom 0 (pieces template.toList)

/-- What a conversion selects is the argument that it refers to. -/
theorem Conversion.bind_of_select_eq_ok {c : Conversion} {s : Option Nat × Nat}
    (h : c.select next = .ok s) (args : List Value) :
    s.1.bind (args[·]?) = argumentAt args (c.reference next) := by
  unfold Conversion.select at h
  unfold Conversion.reference argumentAt
  cases hposition : c.position with
  | none =>
      rw [hposition] at h
      cases h
      simp
  | some ds =>
      simp only [hposition] at h ⊢
      split at h
      · cases h
      · cases h
        by_cases hzero : countOf ds = 0
        · simp [hzero]
        · have hle : (0 : Int) ≤ countOf ds - 1 := by omega
          have hnat : ((countOf ds : Int) - 1).toNat = countOf ds - 1 := by omega
          rw [if_neg hzero, if_pos hle, hnat]
          rfl

/-- A conversion with too long a position breaks filling off, whatever the arguments. -/
theorem Conversion.fill_of_overlong {c : Conversion} (htakes : c.takesArgument = true)
    {digits : Nat} (h : c.Overlong digits) (args : List Value) (next : Nat) :
    c.fill args next = .error (.fault (.positionTooLong digits)) :=
  Conversion.fill_eq_fault_iff.2 (.position htakes h)

/-- Any other puts the argument that it refers to in its place. -/
theorem Conversion.fill_of_not_overlong {c : Conversion} (htakes : c.takesArgument = true)
    (h : ∀ digits, ¬ c.Overlong digits) (args : List Value) (next : Nat) :
    c.fill args next =
      match argumentAt args (c.reference next) with
      | none => .error (.unfilled (.noArgument c))
      | some v => (c.place v).map (·, c.nextAfter next) := by
  rw [Conversion.fill_of_takesArgument args next htakes]
  cases hselect : c.select next with
  | error e =>
      obtain ⟨digits, hoverlong, -⟩ := Conversion.select_eq_error_iff.1 hselect
      exact absurd hoverlong (h digits)
  | ok s =>
      have hnext : s.2 = c.nextAfter next := by
        rw [Conversion.nextAfter, htakes, Bool.true_and]
        exact Conversion.next_of_select_eq_ok hselect
      rw [← Conversion.bind_of_select_eq_ok hselect args, ← hnext]
      rfl

/-! ### Arguments that are not referred to -/

/-- A piece is filled alike from two lists of arguments that agree on what it refers to. -/
theorem Piece.fill_congr {p : Piece}
    (h : ∀ i ∈ p.references next, argumentAt args i = argumentAt args' i) :
    p.fill args next = p.fill args' next := by
  cases p with
  | literal c => rfl
  | dangling offset => rfl
  | conversion c =>
      show c.fill args next = c.fill args' next
      cases htakes : c.takesArgument with
      | false =>
          rw [Conversion.fill_of_not_takesArgument args next htakes,
            Conversion.fill_of_not_takesArgument args' next htakes]
      | true =>
          have hsame : argumentAt args (c.reference next) = argumentAt args' (c.reference next) :=
            h _ (by simp [Piece.references, htakes])
          by_cases hoverlong : ∃ digits, c.Overlong digits
          · obtain ⟨digits, hdigits⟩ := hoverlong
            rw [Conversion.fill_of_overlong htakes hdigits, Conversion.fill_of_overlong htakes hdigits]
          · have hshort := not_exists.1 hoverlong
            rw [Conversion.fill_of_not_overlong htakes hshort,
              Conversion.fill_of_not_overlong htakes hshort, hsame]

/-- Arguments that no piece refers to have no influence. -/
theorem fillPieces_congr {ps : List Piece}
    (h : ∀ i ∈ referencesFrom next ps, argumentAt args i = argumentAt args' i) :
    fillPieces args next ps = fillPieces args' next ps := by
  induction ps generalizing next with
  | nil => rfl
  | cons p ps ih =>
      simp only [referencesFrom, List.mem_append] at h
      have hsame : p.fill args next = p.fill args' next :=
        Piece.fill_congr fun i hi => h i (.inl hi)
      cases hp : p.fill args next with
      | error e =>
          rw [fillPieces_cons_of_error hp, fillPieces_cons_of_error (hsame ▸ hp)]
      | ok r =>
          rw [fillPieces_cons_of_ok hp, fillPieces_cons_of_ok (hsame ▸ hp),
            ih fun i hi => h i (.inr hi)]

/-! ### Arguments that are missing -/

/-- A piece is filled only if there is the argument that it refers to. -/
theorem Piece.argument_ne_none_of_fill {p : Piece} {r : List Char × Nat}
    (h : p.fill args next = .ok r) : ∀ i ∈ p.references next, argumentAt args i ≠ none := by
  intro i hi hmissing
  cases p with
  | literal c => cases hi
  | dangling offset => cases hi
  | conversion c =>
      by_cases htakes : c.takesArgument = true
      · have hreference : i = c.reference next := by simpa [Piece.references, htakes] using hi
        have hfill : c.fill args next = .ok r := h
        by_cases hoverlong : ∃ digits, c.Overlong digits
        · obtain ⟨digits, hdigits⟩ := hoverlong
          rw [Conversion.fill_of_overlong htakes hdigits] at hfill
          cases hfill
        · rw [Conversion.fill_of_not_overlong htakes (not_exists.1 hoverlong), ← hreference,
            hmissing] at hfill
          cases hfill
      · simp [Piece.references, htakes] at hi

/-- Pieces are filled only if there is every argument that they refer to. -/
theorem argument_ne_none_of_fillPieces {ps : List Piece} {cs : List Char}
    (h : fillPieces args next ps = .ok cs) :
    ∀ i ∈ referencesFrom next ps, argumentAt args i ≠ none := by
  induction ps generalizing next cs with
  | nil => simp [referencesFrom]
  | cons p ps ih =>
      cases hp : p.fill args next with
      | error e =>
          rw [fillPieces_cons_of_error hp] at h
          cases h
      | ok r =>
          rw [fillPieces_cons_of_ok hp] at h
          obtain ⟨cs, hcs, -⟩ := map_eq_ok h
          intro i hi
          rcases List.mem_append.1 hi with hi | hi
          · exact Piece.argument_ne_none_of_fill hp i hi
          · exact ih hcs i hi

/-! ## Positions for all -/

/-- A conversion that names the argument it takes. -/
def Conversion.indexed (next : Nat) (c : Conversion) : Conversion :=
  if c.takesArgument && c.position.isNone then {c with position := some (digitsOf (next + 1))}
  else c

/-- A template, after passing over `skip` characters, with a position in every conversion that takes
an argument.  Behind a percent sign that starts no conversion it stays as it is. -/
def indexedFrom (next : Nat) : (skip : Nat) → List Char → List Char
  | _, [] => []
  | skip + 1, _ :: rest => indexedFrom next skip rest
  | 0, c :: rest =>
    if c = '%' then
      match Conversion.read? rest with
      | some (v, _) =>
        (v.indexed next).chars ++ indexedFrom (v.nextAfter next) (v.chars.length - 1) rest
      | none => c :: rest
    else c :: indexedFrom next 0 rest

/-- A template with a position in every conversion that takes an argument, counted from one. -/
def indexed (template : String) : String := String.ofList (indexedFrom 0 0 template.toList)

/-- Whether the position of a piece has no more digits than a number may have. -/
def Piece.hasShortPosition : Piece → Bool
  | .conversion c => (c.position.getD []).length ≤ Value.maxDigits
  | _ => true

/-- Whether all positions of a template have no more digits than a number may have. -/
def HasShortPositions (template : String) : Prop :=
  ∀ p ∈ pieces template.toList, p.hasShortPosition = true

instance : DecidablePred HasShortPositions := fun template =>
  inferInstanceAs (Decidable (∀ p ∈ pieces template.toList, p.hasShortPosition = true))

/-- A short position is not too long, however many digits are asked about. -/
theorem Conversion.not_overlong {c : Conversion}
    (h : (Piece.conversion c).hasShortPosition = true) (digits : Nat) : ¬ c.Overlong digits := by
  rintro ⟨hlt, ds, hposition, hlength⟩
  have hle : ds.length ≤ Value.maxDigits := by
    simpa [Piece.hasShortPosition, hposition] using h
  omega

/-- Characters to be passed over are passed over. -/
theorem indexedFrom_skip (next : Nat) (xs rest : List Char) :
    indexedFrom next xs.length (xs ++ rest) = indexedFrom next 0 rest := by
  induction xs with
  | nil => rfl
  | cons x xs ih => exact ih

/-- A character that is no percent sign stays as it is. -/
theorem indexedFrom_literal {c : Char} (hc : c ≠ '%') (cs : List Char) :
    indexedFrom next 0 (c :: cs) = c :: indexedFrom next 0 cs := by
  rw [indexedFrom, if_neg hc]

theorem indexedFrom_dangling {cs : List Char} (h : Conversion.read? cs = none) :
    indexedFrom next 0 ('%' :: cs) = '%' :: cs := by
  rw [indexedFrom, if_pos rfl, h]

/-- A conversion is written with its position, and the scan goes on behind it. -/
theorem indexedFrom_conversion {cs rest : List Char} {v : Conversion}
    (h : Conversion.read? cs = some (v, rest)) :
    indexedFrom next 0 ('%' :: cs) =
      (v.indexed next).chars ++ indexedFrom (v.nextAfter next) 0 rest := by
  have hcs : cs = (v.body ++ [v.letter]) ++ rest := by
    simp [(Conversion.read?_eq_some_iff.1 h).2]
  have hlength : v.chars.length - 1 = (v.body ++ [v.letter]).length := by
    simp [Conversion.chars_eq]
  rw [indexedFrom, if_pos rfl, h]
  dsimp only
  rw [hlength, hcs, indexedFrom_skip]

/-! ### Digits -/

/-- Digits are read as the number that they write. -/
theorem readDigits?_eq {ds : List Char} (h : ∀ d ∈ ds, d.isDigit = true) :
    readDigits? 10 ds = some (Nat.ofDigitChars 10 ds 0) := by
  have hlt : ∀ d : Char, d.isDigit = true → d.toNat - '0'.toNat < 10 := by
    intro d hd
    simp only [Char.isDigit, Bool.and_eq_true, decide_eq_true_eq, ge_iff_le,
      UInt32.le_iff_toNat_le] at hd
    have hle : d.toNat ≤ 57 := hd.2
    show d.toNat - 48 < 10
    omega
  suffices hfold : ∀ n, ds.foldl _ (some n) = some (Nat.ofDigitChars 10 ds n) from hfold 0
  induction ds with
  | nil => exact fun _ => rfl
  | cons d ds ih =>
      intro n
      have hd := h d List.mem_cons_self
      rw [List.foldl_cons, Nat.ofDigitChars_cons, ← ih fun d hd => h d (List.mem_cons_of_mem _ hd)]
      congr 1
      simp only [Option.bind_some, if_pos hd, if_pos (hlt d hd), Nat.mul_comm]

theorem isDigits_digitsOf (n : Nat) : Conversion.IsDigits (digitsOf n) :=
  ⟨Nat.toDigits_ne_nil, fun _ hd => Nat.isDigit_of_mem_toDigits (by decide) (by decide) hd⟩

/-- The digits of a number count as that number. -/
theorem countOf_digitsOf (n : Nat) : countOf (digitsOf n) = n := by
  rw [countOf, readDigits?_eq (isDigits_digitsOf n).2, digitsOf,
    Nat.ofDigitChars_toDigits (by decide) (by decide)]
  rfl

/-! ### One conversion -/

namespace Conversion

variable {c : Conversion}

/-- A conversion that can be read stays one with a position in it. -/
theorem Legible.indexed (h : c.Legible) (next : Nat) : (c.indexed next).Legible := by
  unfold Conversion.indexed
  split
  · exact h.positioned (isDigits_digitsOf _)
  · exact h

/-- Whether a conversion takes an argument does not depend on its position. -/
theorem takesArgument_indexed (next : Nat) : (c.indexed next).takesArgument = c.takesArgument := by
  unfold Conversion.indexed
  split <;> rfl

/-- The position is of no use to what is put in place of a conversion. -/
theorem place_indexed (next : Nat) : (c.indexed next).place = c.place := by
  unfold Conversion.indexed
  split <;> rfl

/-- With a position, a conversion refers to the same argument, whatever the next one is. -/
theorem reference_indexed (htakes : c.takesArgument = true) (next next' : Nat) :
    (c.indexed next).reference next' = c.reference next := by
  unfold Conversion.indexed Conversion.reference
  cases hposition : c.position with
  | none => simp [htakes, countOf_digitsOf]
  | some ds => simp [hposition]

end Conversion

/-- What breaks filling off, if anything does. -/
def Stop.fault? : Stop → Option Fault
  | .unfilled _ => none
  | .fault f => some f

/-- What comes of filling, but for the reason why something stays unfilled. -/
def unreasoned (x : Except Stop α) : Except (Option Fault) α := x.mapError Stop.fault?

@[simp] theorem unreasoned_error (e : Stop) :
    unreasoned (.error e : Except Stop α) = .error e.fault? := rfl

@[simp] theorem unreasoned_ok (a : α) : unreasoned (.ok a) = .ok a := rfl

theorem unreasoned_map (f : α → β) (x : Except Stop α) :
    unreasoned (x.map f) = (unreasoned x).map f := by
  cases x <;> rfl

/-- The text of a conversion does not depend on the way in which it refers to its argument. -/
theorem Conversion.unreasoned_fill_indexed {c : Conversion}
    (hindexed : ∀ digits, ¬ (c.indexed next).Overlong digits) (args : List Value) (next' : Nat) :
    unreasoned (((c.indexed next).fill args next').map Prod.fst) =
      unreasoned ((c.fill args next).map Prod.fst) := by
  cases htakes : c.takesArgument with
  | false =>
      have hsame : c.indexed next = c := by simp [Conversion.indexed, htakes]
      rw [hsame, Conversion.fill_of_not_takesArgument args next htakes,
        Conversion.fill_of_not_takesArgument args next' htakes]
      rfl
  | true =>
      have hshort : ∀ digits, ¬ c.Overlong digits := by
        rintro digits ⟨hlt, ds, hposition, hlength⟩
        exact hindexed digits ⟨hlt, ds, by simp [Conversion.indexed, hposition], hlength⟩
      have htakes' := (c.takesArgument_indexed next).trans htakes
      rw [Conversion.fill_of_not_overlong htakes hshort,
        Conversion.fill_of_not_overlong htakes' hindexed, c.reference_indexed htakes,
        c.place_indexed]
      cases argumentAt args (c.reference next) with
      | none => rfl
      | some v =>
          dsimp only
          cases c.place v <;> rfl

/-! ### All pieces -/

/-- A conversion with its position is read as such, whatever it was before. -/
theorem piecesFrom_indexedFrom_conversion (offset : Nat) {cs rest : List Char} {v : Conversion}
    (h : Conversion.read? cs = some (v, rest)) :
    piecesFrom offset 0 (indexedFrom next 0 ('%' :: cs)) =
      .conversion (v.indexed next) ::
        piecesFrom (offset + (v.indexed next).chars.length) 0
          (indexedFrom (v.nextAfter next) 0 rest) := by
  have hread := ((Conversion.read?_eq_some_iff.1 h).1.indexed next).read?_eq
    (indexedFrom (v.nextAfter next) 0 rest)
  have hchars : (v.indexed next).chars ++ indexedFrom (v.nextAfter next) 0 rest =
      '%' :: ((v.indexed next).body ++
        (v.indexed next).letter :: indexedFrom (v.nextAfter next) 0 rest) := by
    simp [Conversion.chars_eq]
  rw [indexedFrom_conversion h, hchars, piecesFrom_conversion offset hread]

/-- Pieces that become the same text are followed by pieces that do. -/
theorem unreasoned_fillPieces_cons {p q : Piece} {ps qs : List Piece} {next' : Nat}
    (h : unreasoned ((p.fill args next).map Prod.fst) =
      unreasoned ((q.fill args next').map Prod.fst))
    (hrest : unreasoned (fillPieces args (p.nextAfter next) ps) =
      unreasoned (fillPieces args (q.nextAfter next') qs)) :
    unreasoned (fillPieces args next (p :: ps)) = unreasoned (fillPieces args next' (q :: qs)) := by
  cases hp : p.fill args next with
  | error e =>
      cases hq : q.fill args next' with
      | error e' =>
          rw [fillPieces_cons_of_error hp, fillPieces_cons_of_error hq]
          rw [hp, hq] at h
          have hfault : e.fault? = e'.fault? := Except.error.inj h
          rw [unreasoned_error, unreasoned_error, hfault]
      | ok r' =>
          rw [hp, hq] at h
          cases h
  | ok r =>
      cases hq : q.fill args next' with
      | error e' =>
          rw [hp, hq] at h
          cases h
      | ok r' =>
          have htext : r.1 = r'.1 := by
            rw [hp, hq] at h
            exact Except.ok.inj h
          rw [fillPieces_cons_of_ok hp, fillPieces_cons_of_ok hq, htext, unreasoned_map,
            unreasoned_map, hrest]

/-- With a position in every conversion, pieces become the same text, whatever the next argument. -/
theorem unreasoned_fillPieces_indexed (args : List Value) (offset offset' next' : Nat)
    (cs : List Char)
    (hshort : ∀ p ∈ piecesFrom offset' 0 (indexedFrom next 0 cs), p.hasShortPosition = true) :
    unreasoned (fillPieces args next' (piecesFrom offset' 0 (indexedFrom next 0 cs))) =
      unreasoned (fillPieces args next (piecesFrom offset 0 cs)) := by
  induction cs using scan_induction generalizing offset offset' next next' with
  | nil => rfl
  | literal hc ih =>
      rw [indexedFrom_literal hc, piecesFrom_literal _ hc] at hshort ⊢
      rw [piecesFrom_literal _ hc]
      exact unreasoned_fillPieces_cons rfl
        (ih _ _ _ fun p hmem => hshort p (List.mem_cons_of_mem _ hmem))
  | dangling hv =>
      rw [indexedFrom_dangling hv, piecesFrom_dangling _ hv, piecesFrom_dangling _ hv]
      rfl
  | @conversion v cs rest hv ih =>
      rw [piecesFrom_indexedFrom_conversion _ hv] at hshort ⊢
      rw [piecesFrom_conversion _ hv]
      exact unreasoned_fillPieces_cons
        (Conversion.unreasoned_fill_indexed (Conversion.not_overlong (hshort _ List.mem_cons_self))
          args next')
        (ih _ _ _ fun p hmem => hshort p (List.mem_cons_of_mem _ hmem))

/-! ## Templates -/

/-- A template is filled exactly if its pieces are, and with the same text. -/
theorem fill_eq_filled_iff {template x : String} :
    fill template args = .ok (.filled x) ↔
      fillPieces args 0 (pieces template.toList) = .ok x.toList := by
  rw [fill]
  rcases fillPieces args 0 (pieces template.toList) with (r | f) | cs
  · simp
  · simp
  · simp [← String.toList_inj]

/-- Two fillings that fail alike, whatever the reason, succeed alike. -/
theorem ok_iff_of_unreasoned {x y : Except Stop α} (h : unreasoned x = unreasoned y) (a : α) :
    x = .ok a ↔ y = .ok a := by
  cases x <;> cases y <;> simp_all

/-- A number below a power of ten has no more digits than the power. -/
theorem length_digitsOf_le {n k : Nat} (hk : 0 < k) (h : n < Nat.pow 10 k) :
    (digitsOf n).length ≤ k :=
  (Nat.length_toDigits_le_iff (by decide) hk).2 h

/-- A position that is put in is short as long as the number of the argument is. -/
theorem hasShortPosition_indexed {v : Conversion}
    (h : (Piece.conversion v).hasShortPosition = true)
    (hnext : next + 1 < Nat.pow 10 Value.maxDigits) :
    (Piece.conversion (v.indexed next)).hasShortPosition = true := by
  unfold Conversion.indexed
  split
  · have hlength : (digitsOf (next + 1)).length ≤ Value.maxDigits :=
      length_digitsOf_le (by decide) hnext
    simpa [Piece.hasShortPosition] using hlength
  · exact h

/-- The positions that are put in are short as well, unless there are more conversions than a number
can count. -/
theorem hasShortPositions_indexed {template : String} (h : HasShortPositions template)
    (hlength : template.length < Nat.pow 10 Value.maxDigits) : HasShortPositions (indexed template) := by
  have hscan : ∀ (cs : List Char) (next offset offset' : Nat),
      (∀ p ∈ piecesFrom offset 0 cs, p.hasShortPosition = true) →
      next + cs.length < Nat.pow 10 Value.maxDigits →
      ∀ p ∈ piecesFrom offset' 0 (indexedFrom next 0 cs), p.hasShortPosition = true := by
    intro cs
    induction cs using scan_induction with
    | nil => simp [indexedFrom, piecesFrom]
    | literal hc ih =>
        intro next offset offset' hpieces hcount
        rw [piecesFrom_literal _ hc, List.forall_mem_cons] at hpieces
        rw [indexedFrom_literal hc, piecesFrom_literal _ hc, List.forall_mem_cons]
        rw [List.length_cons] at hcount
        exact ⟨rfl, ih next _ _ hpieces.2 (by omega)⟩
    | dangling hv =>
        intro next offset offset' _ _
        rw [indexedFrom_dangling hv, piecesFrom_dangling _ hv]
        simp [Piece.hasShortPosition]
    | @conversion v cs rest hv ih =>
        intro next offset offset' hpieces hcount
        rw [piecesFrom_conversion _ hv, List.forall_mem_cons] at hpieces
        rw [piecesFrom_indexedFrom_conversion _ hv, List.forall_mem_cons]
        have hlt := length_lt_of_read? hv
        have hnext : v.nextAfter next ≤ next + 1 := by
          unfold Conversion.nextAfter
          split <;> omega
        rw [List.length_cons] at hcount
        exact ⟨hasShortPosition_indexed hpieces.1 (by omega), ih _ _ _ hpieces.2 (by omega)⟩
  have hall := hscan template.toList 0 0 0 h (by rwa [Nat.zero_add, String.length_toList])
  simpa [HasShortPositions, pieces, indexed] using hall

/-- With short positions, only a lack of room breaks the work on a template off. -/
theorem eq_outOfMemory_of_fill {template : String} {f : Fault} (hshort : HasShortPositions template)
    (h : fill template args = .error f) : f = .outOfMemory := by
  obtain ⟨before, c, after, hpieces, -, hbreaks⟩ := fill_eq_error_iff.1 h
  cases hbreaks with
  | position htakes hoverlong =>
      have hmem : .conversion c ∈ pieces template.toList := by simp [hpieces]
      exact absurd hoverlong (Conversion.not_overlong (hshort _ hmem) _)
  | room htakes hargument hroom => rfl

/-- **How a template addresses its arguments.**  With a position in every conversion that takes an
argument it becomes the same text, as long as the positions are short, those put in included
(`hasShortPositions_indexed`); it becomes none if an argument is missing that it refers to; and the
arguments that it does not refer to have no influence on it. -/
theorem fill_addressing (template : String) :
    (HasShortPositions (indexed template) → ∀ args x,
      (fill (indexed template) args = .ok (.filled x) ↔ fill template args = .ok (.filled x))) ∧
    (∀ args, (∃ i ∈ references template, argumentAt args i = none) →
      (∀ x, fill template args ≠ .ok (.filled x)) ∧
      (HasShortPositions template →
        (∃ r, fill template args = .ok (.unfilled r)) ∨
          fill template args = .error .outOfMemory)) ∧
    ∀ args args', (∀ i ∈ references template, argumentAt args i = argumentAt args' i) →
      fill template args = fill template args' := by
  refine ⟨fun hshort args x => ?_, fun args hmissing => ?_, fun args args' hsame => ?_⟩
  · have htext : unreasoned (fillPieces args 0 (pieces (indexed template).toList)) =
        unreasoned (fillPieces args 0 (pieces template.toList)) := by
      rw [HasShortPositions, indexed, String.toList_ofList] at hshort
      rw [indexed, String.toList_ofList]
      exact unreasoned_fillPieces_indexed args 0 0 0 template.toList hshort
    rw [fill_eq_filled_iff, fill_eq_filled_iff]
    exact ok_iff_of_unreasoned htext x.toList
  · have hnone : ∀ x, fill template args ≠ .ok (.filled x) := by
      intro x h
      obtain ⟨i, hi, hargument⟩ := hmissing
      exact argument_ne_none_of_fillPieces (fill_eq_filled_iff.1 h) i hi hargument
    refine ⟨hnone, fun hshort => ?_⟩
    match h : fill template args with
    | .ok (.filled x) => exact absurd h (hnone x)
    | .ok (.unfilled r) => exact .inl ⟨r, rfl⟩
    | .error f => exact .inr (by rw [eq_outOfMemory_of_fill hshort h])
  · unfold fill
    rw [fillPieces_congr hsame]

theorem fill_addressing_mixed :
    indexed "%s: %3$d%% of %5s%n" = "%1$s: %3$d%% of %2$5s%n" ∧
      references "%s: %3$d%% of %5s%n" = [0, 2, 1] ∧
      fill "%1$s: %3$d%% of %2$5s%n" [.text "Ada", .text "all", .int 7] =
        .ok (.filled "Ada: 7% of   all\n") ∧
      (∀ x, fill "%0$s" [.text "Ada"] ≠ .ok (.filled x)) ∧
      fill "%2$s" [.int 1, .int 2, .int 3] = fill "%2$s" [.null, .int 2] := by
  have hindexed : indexed "%s: %3$d%% of %5s%n" = "%1$s: %3$d%% of %2$5s%n" := by decide
  refine ⟨hindexed, by decide, ?_, ?_, ?_⟩
  · rw [← hindexed]
    exact ((fill_addressing _).1 (by decide) _ _).2 rfl
  · exact ((fill_addressing "%0$s").2.1 [.text "Ada"] ⟨-1, by decide, rfl⟩).1
  · have hreferences : references "%2$s" = [1] := by decide
    refine (fill_addressing "%2$s").2.2 _ _ fun i hi => ?_
    obtain rfl : i = 1 := by simpa [hreferences] using hi
    rfl

end StringCatalog.Template
