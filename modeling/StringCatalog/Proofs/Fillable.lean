import StringCatalog.Proofs.Addressing
import StringCatalog.Proofs.Placeholders

/-!
# StringCatalog.Proofs.Fillable

Which placeholders can be filled at all.  Positions are counted from one, so a
placeholder with position zero is found in a text, and makes it an entry with
placeholders, but there are no arguments that would fill it.

* `filled_iff` — a placeholder alone is filled by the argument that it refers
  to, if that has a form for its letter;
* `exists_place_zero` — zero has a form for every letter that asks for a value,
  `p` apart, which asks for an address;
* `fillable_iff` — so all that can be missing is an argument of that position;
* `fillable_of_mem_placeholders` — for every placeholder found in a text.
-/

namespace StringCatalog.Template

/-- An upper bound of how many arguments there can be: an index is a signed word of 64 bits.  Memory
sets a lower one, which is not modelled. -/
def maxArguments : Nat := Nat.pow 2 63 - 1

/-- Whether there are arguments with which a template is filled. -/
def Fillable (template : String) : Prop :=
  ∃ args : List Value, args.length ≤ maxArguments ∧ ∃ x, fill template args = .ok (.filled x)

namespace Placeholder

variable {p : Placeholder} {args : List Value}

/-- Whether the position of a placeholder has no more digits than a number may have. -/
def IsShort (p : Placeholder) : Prop := (p.position.getD []).length ≤ Value.maxDigits

/-- Whether a placeholder refers to an argument that there can be: the next one in turn, or one of a
position that is counted from one. -/
def Addresses (p : Placeholder) : Prop :=
  ∀ ds, p.position = some ds → 1 ≤ countOf ds ∧ countOf ds ≤ maxArguments

/-! ## A placeholder alone -/

/-- A placeholder by itself is one conversion. -/
theorem pieces_chars (h : p.Legible) : pieces p.chars = [.conversion p.conversion] := by
  have hpieces := piecesFrom_chars h 0 []
  rwa [List.append_nil] at hpieces

/-- A short position is not too long, however many digits are asked about. -/
theorem not_overlong (h : p.IsShort) (digits : Nat) : ¬ p.conversion.Overlong digits := by
  have hshort : (Piece.conversion p.conversion).hasShortPosition = true := decide_eq_true h
  exact Conversion.not_overlong hshort digits

/-- A placeholder by itself can be filled exactly if its conversion can. -/
theorem exists_filled_iff (h : p.Legible) :
    (∃ x, fill (String.ofList p.chars) args = .ok (.filled x)) ↔
      ∃ r, p.conversion.fill args 0 = .ok r := by
  simp only [fill_eq_filled_iff, String.toList_ofList, pieces_chars h]
  constructor
  · rintro ⟨x, hx⟩
    cases hfill : (Piece.conversion p.conversion).fill args 0 with
    | error e =>
        rw [fillPieces_cons_of_error hfill] at hx
        cases hx
    | ok r => exact ⟨r, hfill⟩
  · rintro ⟨r, hr⟩
    have hfill : (Piece.conversion p.conversion).fill args 0 = .ok r := hr
    refine ⟨String.ofList r.1, ?_⟩
    rw [fillPieces_cons_of_ok hfill, String.toList_ofList]
    simp [fillPieces, Except.map]

/-- A placeholder alone is filled by the argument that it refers to, if that can be put in its
place. -/
theorem filled_iff (h : p.Legible) (htakes : p.conversion.takesArgument = true)
    (hshort : p.IsShort) :
    (∃ x, fill (String.ofList p.chars) args = .ok (.filled x)) ↔
      ∃ v, argumentAt args (p.conversion.reference 0) = some v ∧
        ∃ cs, p.conversion.place v = .ok cs := by
  rw [exists_filled_iff h, Conversion.fill_of_not_overlong htakes (not_overlong hshort)]
  cases argumentAt args (p.conversion.reference 0) with
  | none => simp
  | some v =>
      cases hplace : p.conversion.place v <;> simp [Except.map, hplace]

/-- Zero can be put in place of every placeholder that takes an argument, except an address. -/
theorem exists_place_zero (h : p.Legible) (htakes : p.conversion.takesArgument = true)
    (hletter : p.letter ≠ 'p') : ∃ cs, p.conversion.place (.int 0) = .ok cs := by
  have hall : (placeholderLetters.all fun c => c = 'p' || c = '%' || c = 'n' ||
      (Conversion.place ⟨none, [], [], none, c⟩ (.int 0)).isOk) = true := by
    decide
  obtain ⟨hpercent, hline⟩ : p.letter ≠ '%' ∧ p.letter ≠ 'n' :=
    Conversion.takesArgument_eq_true_iff.1 htakes
  -- the position is of no use to what is put in place
  have hok : (p.conversion.place (.int 0)).isOk = true := by
    have hcase := List.all_eq_true.1 hall p.letter h.letter
    rwa [decide_eq_false hletter, decide_eq_false hpercent, decide_eq_false hline] at hcase
  cases hplace : p.conversion.place (.int 0) with
  | ok cs => exact ⟨cs, rfl⟩
  | error e =>
      rw [hplace] at hok
      cases hok

/-! ## Arguments that there can be -/

/-- An argument that is referred to has a number that there can be. -/
theorem addresses_of_argumentAt {v : Value} (hlength : args.length ≤ maxArguments)
    (h : argumentAt args (p.conversion.reference 0) = some v) : p.Addresses := by
  intro ds hposition
  have hreference : p.conversion.reference 0 = (countOf ds : Int) - 1 := by
    simp [Conversion.reference, conversion, hposition]
  rw [hreference, argumentAt] at h
  split at h
  · have hlt := (List.getElem?_eq_some_iff.1 h).1
    omega
  · cases h

/-- As many zeros as the position says have one at that position. -/
theorem exists_argumentAt (h : p.Addresses) :
    ∃ args : List Value, args.length ≤ maxArguments ∧
      argumentAt args (p.conversion.reference 0) = some (.int 0) := by
  cases hposition : p.position with
  | none =>
      refine ⟨[.int 0], by decide, ?_⟩
      simp [Conversion.reference, conversion, hposition, argumentAt]
  | some ds =>
      obtain ⟨hpos, hle⟩ := h ds hposition
      have hreference : p.conversion.reference 0 = ((countOf ds - 1 : Nat) : Int) := by
        simp only [Conversion.reference, conversion, hposition]
        omega
      refine ⟨List.replicate (countOf ds) (.int 0), by rwa [List.length_replicate], ?_⟩
      rw [hreference, argumentAt, if_pos (Int.natCast_nonneg _), Int.toNat_natCast,
        List.getElem?_replicate, if_pos (Nat.sub_lt hpos Nat.one_pos)]

/-- What takes no argument is filled without any. -/
theorem fillable_of_not_takesArgument (h : p.Legible) (htakes : p.conversion.takesArgument = false) :
    Fillable (String.ofList p.chars) :=
  ⟨[], Nat.zero_le _, (exists_filled_iff h).2 ⟨_, Conversion.fill_of_not_takesArgument [] 0 htakes⟩⟩

/-- **A placeholder that takes an argument can be filled** exactly when it refers to one that there
can be. -/
theorem fillable_iff (h : p.Legible) (htakes : p.conversion.takesArgument = true)
    (hletter : p.letter ≠ 'p') (hshort : p.IsShort) :
    Fillable (String.ofList p.chars) ↔ p.Addresses := by
  constructor
  · rintro ⟨args, hlength, hfilled⟩
    obtain ⟨v, hv, -⟩ := (filled_iff h htakes hshort).1 hfilled
    exact addresses_of_argumentAt hlength hv
  · intro haddresses
    obtain ⟨args, hlength, hargument⟩ := exists_argumentAt haddresses
    exact ⟨args, hlength, (filled_iff h htakes hshort).2
      ⟨_, hargument, exists_place_zero h htakes hletter⟩⟩

end Placeholder

/-! ## Placeholders that are found -/

/-- **Every placeholder that is found in a text can be filled**, and makes the text an entry with
placeholders, unless it refers to an argument that cannot be, such as the one of position zero; of
addresses and of positions that are too long for a number nothing is said. -/
theorem fillable_of_mem_placeholders {value token : String} (htoken : token ∈ placeholders value) :
    (∀ key, Entry.ofText key value = .formatted key value (placeholders value)) ∧
    ∃ p : Placeholder, p.Legible ∧ token = String.ofList p.chars ∧
      (p.conversion.takesArgument = false → Fillable token) ∧
      (p.conversion.takesArgument = true → p.letter ≠ 'p' → p.IsShort →
        (Fillable token ↔ p.Addresses)) := by
  obtain ⟨p, hlegible, -, rfl, -⟩ := exists_of_mem_placeholders htoken
  refine ⟨fun key => ?_, p, hlegible, rfl, Placeholder.fillable_of_not_takesArgument hlegible,
    Placeholder.fillable_iff hlegible⟩
  rw [ofText_eq, if_neg (List.ne_nil_of_mem htoken)]

theorem fillable_of_mem_placeholders_second :
    "%2$d" ∈ placeholders "of %2$d" ∧ Fillable "%2$d" ∧
      Entry.ofText "total" "of %2$d" = .formatted "total" "of %2$d" ["%2$d"] := by
  have htoken : "%2$d" ∈ placeholders "of %2$d" := by decide
  have hlegible : Placeholder.Legible ⟨some ['2'], 'd'⟩ :=
    ⟨fun ds h => Option.some.inj h ▸ ⟨by decide, List.forall_mem_singleton.2 rfl⟩, by decide⟩
  obtain ⟨hentry, p, hp, heq, -, hfillable⟩ := fillable_of_mem_placeholders htoken
  obtain rfl : p = ⟨some ['2'], 'd'⟩ :=
    hp.eq_of_chars_eq hlegible (String.ofList_inj.1 (heq.symm.trans rfl))
  have hshort : Placeholder.IsShort ⟨some ['2'], 'd'⟩ := (by decide : 1 ≤ Value.maxDigits)
  have haddresses : Placeholder.Addresses ⟨some ['2'], 'd'⟩ :=
    fun ds h => Option.some.inj h ▸ by decide
  exact ⟨htoken, (hfillable (by decide) (by decide) hshort).2 haddresses, hentry "total"⟩

/-- A placeholder of position zero is found in a text, and so is an address, but there is nothing
that fills them. -/
theorem not_fillable_position_zero :
    placeholders "%0$s %p" = ["%0$s", "%p"] ∧
      (∀ args x, fill "%0$s" args ≠ .ok (.filled x)) ∧
      ∀ args x, fill "%p" args ≠ .ok (.filled x) := by
  refine ⟨by decide, fun args x h => ?_, fun args x h => ?_⟩
  · exact argument_ne_none_of_fillPieces (fill_eq_filled_iff.1 h) (-1) (by decide) rfl
  · have haddress : Placeholder.Legible ⟨none, 'p'⟩ := ⟨nofun, by decide⟩
    obtain ⟨v, -, cs, hcs⟩ := (Placeholder.filled_iff haddress (by decide) (Nat.zero_le _)).1 ⟨x, h⟩
    cases hcs

end StringCatalog.Template
