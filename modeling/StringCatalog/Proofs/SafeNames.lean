import StringCatalog.Locale

/-!
# StringCatalog.Proofs.SafeNames

The names that locales get, and the two names made from them: the one in upper
case of a registry's member and the one in lower case of a module.

* `safeName_eq_empty_or` — a token made safe is a safe name, unless nothing of
  it is left;
* `lower_eq_iff_upper_eq` — of ASCII texts, upper case and lower case say the
  same, so that safe names apart in lower case are apart in upper case
  (`lower_eq_of_upper_eq`).
-/

namespace StringCatalog

open Text

/-! ## ASCII characters -/

/-- What holds of the first 128 characters holds of every ASCII character. -/
theorem forall_ascii {p : Char → Prop} [DecidablePred p] (h : ∀ n, n < 128 → p (Char.ofNat n))
    {c : Char} (hc : c.toNat < 128) : p c := by
  have hp := h c.toNat hc
  rwa [Char.ofNat_toNat] at hp

/-- What a test finds of the characters of a text; the characters at large are too many to try. -/
theorem forall_mem_of_all {p : Char → Prop} [DecidablePred p] {cs : List Char}
    (h : cs.all (fun c => decide (p c)) = true) : ∀ c ∈ cs, p c := by
  simpa using h

/-- The characters of names: ASCII letters, digits and underscores. -/
def IsNameChar (c : Char) : Prop := (c.isAlphanum || c = '_') = true

instance : DecidablePred IsNameChar := fun _ => inferInstanceAs (Decidable (_ = true))

theorem lt_of_isAlphanum {c : Char} (h : c.isAlphanum = true) : c.toNat < 128 := by
  have hlast : ∀ d : Char, d.toNat < 128 → c.val ≤ d.val → c.toNat < 128 :=
    fun d hd hle => Nat.lt_of_le_of_lt (UInt32.le_iff_toNat_le.1 hle) hd
  have hcases : (c.isUpper = true ∨ c.isLower = true) ∨ c.isDigit = true := by
    rw [← Bool.or_eq_true, ← Bool.or_eq_true]
    exact h
  rcases hcases with (h | h) | h
  · exact hlast 'Z' (by decide) (of_decide_eq_true h).2
  · exact hlast 'z' (by decide) (of_decide_eq_true (Bool.and_eq_true_iff.1 h).2)
  · exact hlast '9' (by decide) (of_decide_eq_true (Bool.and_eq_true_iff.1 h).2)

theorem isAlpha_of_isUpper {c : Char} (h : c.isUpper = true) : c.isAlpha = true :=
  Bool.or_eq_true_iff.2 (.inl h)

theorem lt_of_isUpper {c : Char} (h : c.isUpper = true) : c.toNat < 128 :=
  lt_of_isAlphanum (Bool.or_eq_true_iff.2 (.inl (isAlpha_of_isUpper h)))

/-- The characters of names are ASCII. -/
theorem IsNameChar.lt {c : Char} (h : IsNameChar c) : c.toNat < 128 := by
  rw [IsNameChar, Bool.or_eq_true, decide_eq_true_eq] at h
  rcases h with h | rfl
  · exact lt_of_isAlphanum h
  · decide

theorem IsNameChar.toUpper {c : Char} (h : IsNameChar c) : IsNameChar c.toUpper :=
  forall_ascii (p := fun c => IsNameChar c → IsNameChar c.toUpper) (by decide) h.lt h

theorem IsNameChar.toLower {c : Char} (h : IsNameChar c) : IsNameChar c.toLower :=
  forall_ascii (p := fun c => IsNameChar c → IsNameChar c.toLower) (by decide) h.lt h

/-- In ASCII nothing is lost on the way to upper case and back. -/
theorem toLower_toUpper {c : Char} (h : c.toNat < 128) : c.toUpper.toLower = c.toLower :=
  forall_ascii (p := fun c => c.toUpper.toLower = c.toLower) (by decide) h

theorem toUpper_toLower {c : Char} (h : c.toNat < 128) : c.toLower.toUpper = c.toUpper :=
  forall_ascii (p := fun c => c.toLower.toUpper = c.toUpper) (by decide) h

theorem toUpper_lt {c : Char} (h : c.toNat < 128) : c.toUpper.toNat < 128 :=
  forall_ascii (p := fun c => c.toUpper.toNat < 128) (by decide) h

theorem toLower_lt {c : Char} (h : c.toNat < 128) : c.toLower.toNat < 128 :=
  forall_ascii (p := fun c => c.toLower.toNat < 128) (by decide) h

/-- A character that starts a name but is no digit is a letter, and has an upper case. -/
theorem isUpper_toUpper {c : Char} (h : IsNameChar c) (hdigit : c.isDigit = false)
    (hmark : c ≠ '_') : c.toUpper.isUpper = true :=
  forall_ascii
    (p := fun c => IsNameChar c → c.isDigit = false → c ≠ '_' → c.toUpper.isUpper = true)
    (by decide) h.lt h hdigit hmark

theorem toUpper_of_isUpper {c : Char} (h : c.isUpper = true) : c.toUpper = c :=
  forall_ascii (p := fun c => c.isUpper = true → c.toUpper = c) (by decide) (lt_of_isUpper h) h

/-! ## Safe names -/

/-- A name of ASCII letters, digits and underscores that starts with an upper-case letter. -/
structure SafeName (s : String) : Prop where
  nameChars : ∀ c ∈ s.toList, IsNameChar c
  upperFirst : ∃ c cs, s.toList = c :: cs ∧ c.isUpper = true

/-- Safe names are not empty. -/
theorem SafeName.toList_ne_nil {s : String} (h : SafeName s) : s.toList ≠ [] := by
  obtain ⟨c, cs, hcs, -⟩ := h.upperFirst
  simp [hcs]

/-- Every character is made one of names. -/
theorem isNameChar_safeChar (c : Char) : IsNameChar (safeChar c) := by
  unfold safeChar
  split
  · next h => exact h
  · decide

theorem mem_of_mem_stripUnderscores {c : Char} {cs : List Char} (h : c ∈ stripUnderscores cs) :
    c ∈ cs := by
  rw [stripUnderscores, List.mem_reverse] at h
  have h := (List.dropWhile_sublist _).mem h
  rw [List.mem_reverse] at h
  exact (List.dropWhile_sublist _).mem h

/-- No underscore is left at the start. -/
theorem head?_stripUnderscores {c : Char} {cs : List Char}
    (h : (stripUnderscores cs).head? = some c) : c ≠ '_' := by
  obtain ⟨ds, hds⟩ := List.head?_eq_some_iff.1 h
  -- underscores taken off the end leave the first character in place
  have hpre : stripUnderscores cs <+: cs.dropWhile (· = '_') := by
    rw [stripUnderscores, ← List.reverse_suffix, List.reverse_reverse]
    exact List.dropWhile_suffix _
  obtain ⟨es, hes⟩ := hpre
  rw [hds, List.cons_append] at hes
  have hhead := List.head?_dropWhile_not (fun c : Char => decide (c = '_')) cs
  rw [← hes, List.head?_cons] at hhead
  simpa using hhead

/-- **A token made safe is a safe name**, unless nothing of it is left. -/
theorem safeName_eq_empty_or (token : String) :
    safeName token = "" ∨ SafeName (safeName token) := by
  have hchars : ∀ c ∈ stripUnderscores (token.toList.map safeChar), IsNameChar c := by
    intro c hc
    obtain ⟨d, -, rfl⟩ := List.mem_map.1 (mem_of_mem_stripUnderscores hc)
    exact isNameChar_safeChar d
  have hmark := fun c => @head?_stripUnderscores c (token.toList.map safeChar)
  rw [safeName]
  generalize stripUnderscores (token.toList.map safeChar) = cs at hchars hmark
  match cs with
  | [] => exact .inl rfl
  | c :: cs =>
    have hc := hchars c List.mem_cons_self
    right
    by_cases hdigit : c.isDigit = true
    · refine ⟨fun d hd => ?_, 'L', c :: cs, by simp [startUpper, hdigit], by decide⟩
      rw [String.toList_ofList, startUpper, if_pos hdigit] at hd
      rcases List.mem_cons.1 hd with rfl | hd
      · decide
      · exact hchars d hd
    · rw [Bool.not_eq_true] at hdigit
      refine ⟨fun d hd => ?_, c.toUpper, cs, by simp [startUpper, hdigit],
        isUpper_toUpper hc hdigit (hmark c rfl)⟩
      rw [String.toList_ofList, startUpper, if_neg (by simp [hdigit])] at hd
      rcases List.mem_cons.1 hd with rfl | hd
      · exact hc.toUpper
      · exact hchars d (List.mem_cons_of_mem c hd)

/-- What is left of a token is a safe name unless nothing is left. -/
theorem safeName_of_isEmpty_false {token : String} (h : (safeName token).isEmpty = false) :
    SafeName (safeName token) :=
  (safeName_eq_empty_or token).resolve_left fun he => by simp [he] at h

/-! ## Letter case -/

section

variable {s s' : String} (h : ∀ c ∈ s.toList, c.toNat < 128) (h' : ∀ c ∈ s'.toList, c.toNat < 128)

include h

/-- Lower case takes upper case back on ASCII texts. -/
theorem lower_upper_ascii : lower (upper s) = lower s := by
  have hupper : ∀ c ∈ (upper s).toList, c.toNat < 128 := by
    rw [upper_ascii h]
    exact List.forall_mem_map.2 fun c hc => toUpper_lt (h c hc)
  apply String.toList_injective
  rw [lower_ascii hupper, upper_ascii h, lower_ascii h, List.map_map]
  exact List.map_congr_left fun c hc => toLower_toUpper (h c hc)

/-- Upper case takes lower case back on ASCII texts. -/
theorem upper_lower_ascii : upper (lower s) = upper s := by
  have hlower : ∀ c ∈ (lower s).toList, c.toNat < 128 := by
    rw [lower_ascii h]
    exact List.forall_mem_map.2 fun c hc => toLower_lt (h c hc)
  apply String.toList_injective
  rw [upper_ascii hlower, lower_ascii h, upper_ascii h, List.map_map]
  exact List.map_congr_left fun c hc => toUpper_toLower (h c hc)

include h'

/-- Of ASCII texts, upper case and lower case tell the same ones apart. -/
theorem lower_eq_iff_upper_eq : lower s = lower s' ↔ upper s = upper s' := by
  constructor
  · intro heq
    rw [← upper_lower_ascii h, ← upper_lower_ascii h', heq]
  · intro heq
    rw [← lower_upper_ascii h, ← lower_upper_ascii h', heq]

end

namespace SafeName

variable {s s' : String}

theorem ascii (h : SafeName s) : ∀ c ∈ s.toList, c.toNat < 128 :=
  fun c hc => (h.nameChars c hc).lt

/-- Upper case goes character by character. -/
theorem toList_upper (h : SafeName s) : (upper s).toList = s.toList.map Char.toUpper :=
  upper_ascii h.ascii

/-- So does lower case. -/
theorem toList_lower (h : SafeName s) : (lower s).toList = s.toList.map Char.toLower :=
  lower_ascii h.ascii

theorem nameChars_upper (h : SafeName s) : ∀ c ∈ (upper s).toList, IsNameChar c := by
  intro c hc
  rw [h.toList_upper] at hc
  obtain ⟨d, hd, rfl⟩ := List.mem_map.1 hc
  exact (h.nameChars d hd).toUpper

theorem nameChars_lower (h : SafeName s) : ∀ c ∈ (lower s).toList, IsNameChar c := by
  intro c hc
  rw [h.toList_lower] at hc
  obtain ⟨d, hd, rfl⟩ := List.mem_map.1 hc
  exact (h.nameChars d hd).toLower

/-- The upper case of a safe name is a safe name. -/
theorem upper (h : SafeName s) : SafeName (upper s) := by
  obtain ⟨c, cs, hcs, hc⟩ := h.upperFirst
  refine ⟨h.nameChars_upper, c, cs.map Char.toUpper, ?_, hc⟩
  rw [h.toList_upper, hcs, List.map_cons, toUpper_of_isUpper hc]

/-- Lower case takes upper case back. -/
theorem lower_upper (h : SafeName s) : lower (Text.upper s) = lower s :=
  lower_upper_ascii h.ascii

/-- Safe names that are the same in upper case are the same in lower case. -/
theorem lower_eq_of_upper_eq (h : SafeName s) (h' : SafeName s')
    (heq : Text.upper s = Text.upper s') : lower s = lower s' :=
  (lower_eq_iff_upper_eq h.ascii h'.ascii).2 heq

end SafeName

end StringCatalog
