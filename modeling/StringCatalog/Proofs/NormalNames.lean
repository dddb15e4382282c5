import Mathlib.Data.List.DropRight
import StringCatalog.Proofs.PackageNames

/-!
# StringCatalog.Proofs.NormalNames

The normal form of names: a safe name without an underscore at its end.  Making
a token safe brings it into normal form, unless no letter and no digit of ASCII
is in it, and leaves alone what is in normal form already.

* `safeName_eq_empty_iff` — the tokens of which nothing is left;
* `normalName_safeName` — what is left is in normal form (`NormalName`);
* `NormalName.safeName_eq_self` — a name in normal form stays as it is;
* `normalizes_safeName` — what becomes of every token (`Normalizes`).
-/

namespace StringCatalog

open Text

variable {c : Char} {cs : List Char} {s token : String}

/-! ## Characters -/

theorem safeChar_eq_self (h : IsNameChar c) : safeChar c = c := if_pos h

/-- Whatever is no letter or digit becomes an underscore. -/
theorem safeChar_eq_underscore_iff : safeChar c = '_' ↔ c.isAlphanum = false := by
  by_cases hc : c = '_'
  · subst hc
    decide
  · cases halnum : c.isAlphanum <;> simp [safeChar, hc, halnum]

/-! ## Underscores at the ends -/

/-- Underscores are dropped at both ends. -/
theorem stripUnderscores_eq (cs : List Char) :
    stripUnderscores cs = (cs.dropWhile (· = '_')).rdropWhile (· = '_') := rfl

/-- Nothing is left of underscores, and something of all else. -/
theorem stripUnderscores_eq_nil_iff : stripUnderscores cs = [] ↔ ∀ c ∈ cs, c = '_' := by
  rw [stripUnderscores_eq, List.rdropWhile_eq_nil_iff]
  constructor
  · intro h
    have hhead := List.head?_dropWhile_not (fun c : Char => decide (c = '_')) cs
    cases hkept : cs.dropWhile (· = '_') with
    | nil => simpa [List.dropWhile_eq_nil_iff] using hkept
    | cons d ds =>
        rw [hkept] at h hhead
        simp [h d List.mem_cons_self] at hhead
  · intro h c hc
    simp [h c ((List.dropWhile_sublist _).mem hc)]

/-- No underscore is left at the end. -/
theorem getLast?_stripUnderscores (cs : List Char) : (stripUnderscores cs).getLast? ≠ some '_' := by
  intro h
  rw [stripUnderscores, List.getLast?_reverse] at h
  have hhead := List.head?_dropWhile_not (fun c : Char => decide (c = '_'))
    (cs.dropWhile (· = '_')).reverse
  rw [h] at hhead
  simp at hhead

/-- Without underscores at the ends there is nothing to remove. -/
theorem stripUnderscores_eq_self (hhead : cs.head? ≠ some '_') (hlast : cs.getLast? ≠ some '_') :
    stripUnderscores cs = cs := by
  have hkept : cs.dropWhile (· = '_') = cs := by
    cases cs with
    | nil => rfl
    | cons c cs => rw [List.dropWhile_cons_of_neg (by simpa using hhead)]
  rw [stripUnderscores_eq, hkept, List.rdropWhile_eq_self_iff]
  intro hne
  rw [List.getLast?_eq_some_getLast hne] at hlast
  simpa using hlast

/-! ## Normal form -/

/-- A safe name without an underscore at its end. -/
structure NormalName (s : String) : Prop extends SafeName s where
  last : s.toList.getLast? ≠ some '_'

theorem startUpper_eq_nil_iff : startUpper cs = [] ↔ cs = [] := by
  cases cs with
  | nil => simp [startUpper]
  | cons c cs =>
      rw [startUpper]
      split <;> simp

/-- A letter put at the start leaves the end alone. -/
theorem getLast?_startUpper (hchars : ∀ c ∈ cs, IsNameChar c) (hhead : cs.head? ≠ some '_')
    (hlast : cs.getLast? ≠ some '_') : (startUpper cs).getLast? ≠ some '_' := by
  cases cs with
  | nil => simp [startUpper]
  | cons c cs =>
      rw [startUpper]
      split
      · rwa [List.getLast?_cons_cons]
      · next hdigit =>
        cases cs with
        | nil =>
            have hupper : c.toUpper.isUpper = true :=
              isUpper_toUpper (hchars c List.mem_cons_self) (by simpa using hdigit)
                (by simpa using hhead)
            intro heq
            rw [List.getLast?_singleton, Option.some.injEq] at heq
            rw [heq] at hupper
            exact absurd hupper (by decide)
        | cons d ds =>
            rw [List.getLast?_cons_cons] at hlast ⊢
            exact hlast

/-- **Nothing is left** of a token without letters and digits of ASCII. -/
theorem safeName_eq_empty_iff :
    safeName token = "" ↔ ∀ c ∈ token.toList, c.isAlphanum = false := by
  rw [safeName, String.ofList_eq_empty_iff, startUpper_eq_nil_iff, stripUnderscores_eq_nil_iff,
    List.forall_mem_map]
  simp only [safeChar_eq_underscore_iff]

/-- **What is left is in normal form.** -/
theorem normalName_safeName (h : safeName token ≠ "") : NormalName (safeName token) := by
  refine ⟨(safeName_eq_empty_or token).resolve_left h, ?_⟩
  rw [safeName, String.toList_ofList]
  refine getLast?_startUpper (fun c hc => ?_) (fun hhead => head?_stripUnderscores hhead rfl)
    (getLast?_stripUnderscores _)
  obtain ⟨d, -, rfl⟩ := List.mem_map.1 (mem_of_mem_stripUnderscores hc)
  exact isNameChar_safeChar d

theorem isDigit_of_isUpper (h : c.isUpper = true) : c.isDigit = false :=
  forall_ascii (p := fun c => c.isUpper = true → c.isDigit = false) (by decide) (lt_of_isUpper h) h

/-- **A name in normal form stays as it is.** -/
theorem NormalName.safeName_eq_self (h : NormalName s) : safeName s = s := by
  obtain ⟨c, cs, hcs, hc⟩ := h.upperFirst
  have hchars : s.toList.map safeChar = s.toList :=
    (List.map_congr_left fun c hc => safeChar_eq_self (h.nameChars c hc)).trans (List.map_id _)
  have hhead : s.toList.head? ≠ some '_' := by
    rw [hcs, List.head?_cons, ne_eq, Option.some.injEq]
    rintro rfl
    exact absurd hc (by decide)
  rw [safeName, hchars, stripUnderscores_eq_self hhead h.last, hcs, startUpper,
    isDigit_of_isUpper hc, if_neg Bool.false_ne_true, toUpper_of_isUpper hc, ← hcs,
    String.ofList_toList]

/-- Nothing safe is left of nothing. -/
theorem safeName_empty : safeName "" = "" := by decide

/-- The characters of what is left are those of names. -/
theorem nameChars_safeName (token : String) : ∀ c ∈ (safeName token).toList, IsNameChar c := by
  rcases safeName_eq_empty_or token with h | h
  · rw [h]
    nofun
  · exact h.nameChars

/-- What becomes of a token that is made safe. -/
structure Normalizes (token : String) : Prop where
  /-- Nothing is left of a token without letters and digits of ASCII, and something of any other. -/
  empty_iff : safeName token = "" ↔ ∀ c ∈ token.toList, c.isAlphanum = false
  /-- What is left is made of ASCII letters, digits and underscores, with an upper-case letter first
  and no underscore last. -/
  normal : safeName token ≠ "" → NormalName (safeName token)
  /-- It is an identifier. -/
  identifier : safeName token ≠ "" → isIdentifier (safeName token) = true
  /-- In upper case it can name a member, and has no meaning of its own in the class of members. -/
  member : safeName token ≠ "" → IsMemberName (upper (safeName token))
  /-- Making it safe again changes nothing. -/
  idempotent : safeName (safeName token) = safeName token
  /-- Lower case and upper case tell the names of two tokens apart alike. -/
  case_iff : ∀ token', lower (safeName token) = lower (safeName token') ↔
    upper (safeName token) = upper (safeName token')

/-- **Every token is brought into normal form**, or nothing is left of it. -/
theorem normalizes_safeName (token : String) : Normalizes token where
  empty_iff := safeName_eq_empty_iff
  normal := normalName_safeName
  identifier h := (normalName_safeName h).isIdentifier
  member h := (normalName_safeName h).upper.isMemberName (normalName_safeName h).not_isLower_upper
  idempotent := by
    by_cases h : safeName token = ""
    · rw [h, safeName_empty]
    · exact (normalName_safeName h).safeName_eq_self
  case_iff token' := lower_eq_iff_upper_eq (fun c hc => (nameChars_safeName token c hc).lt)
    fun c hc => (nameChars_safeName token' c hc).lt

end StringCatalog
