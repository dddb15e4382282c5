import StringCatalog.Proofs.SafeNames

/-!
# StringCatalog.Proofs.LowerCase

A token is folded in two ways: in lower case it is a code, made safe it is a
name.  Lower case keeps every character on its side of ASCII, but for two, so
that what is left of a token in its name can be told from its code.

* `lowerChar_of_isPlain` — the other characters above ASCII stay above it;
* `map_safeChar_lowerAfter` — letter by letter, a token in lower case is made
  safe as the token is;
* `lower_safeName_eq` — so tokens of one code have one name, in lower case.
-/

namespace StringCatalog

open Text

/-! ## Characters -/

/-- Whether the lower case of a character is above ASCII if the character is; a Kelvin sign becomes
a `k`, and a capital `I` with a dot above an `i` and the dot. -/
def isPlain (c : Char) : Bool := c.toNat ≠ 0x212a && c.toNat ≠ 0x130

/-- Whether a run maps characters to characters above ASCII. -/
def Text.CaseRun.staysAbove (r : CaseRun) : Bool :=
  0x80 ≤ r.first + r.shift &&
    (r.last + r.shift < 0xd800 || (0xdfff < r.first + r.shift && r.last + r.shift < 0x110000))

/-- Lower case leads from outside of ASCII into it for the Kelvin sign only. -/
theorem staysAbove_of_mem_lowerRuns {r : CaseRun} (h : r ∈ lowerRuns) (hfirst : r.first ≠ 0x212a) :
    r.staysAbove = true := by
  have hall : lowerRuns.all (fun r => r.first = 0x212a || r.staysAbove) = true := by
    decide +kernel
  simpa [hfirst] using List.all_eq_true.1 hall r h

theorem toNat_ofNat_of_isValidChar {n : Nat} (h : n.isValidChar) : (Char.ofNat n).toNat = n := by
  rw [Char.ofNat, dif_pos h]
  rfl

/-- **A plain character above ASCII** has a lower case of one character above ASCII. -/
theorem lowerChar_of_isPlain {c : Char} (hplain : isPlain c = true) (hc : 0x80 ≤ c.toNat) :
    ∃ d, lowerChar c = [d] ∧ 0x80 ≤ d.toNat := by
  obtain ⟨hkelvin, hdotted⟩ : c.toNat ≠ 0x212a ∧ c.toNat ≠ 0x130 := by
    simpa [isPlain] using hplain
  have hexpansion : lowerExpansions.find? (fun e => decide (e.1 = c.toNat)) = none := by
    simp [lowerExpansions, Ne.symm hdotted]
  rw [lowerChar, if_neg (Nat.not_lt.2 hc), mapCase, hexpansion]
  dsimp only
  cases hrun : lowerRuns.find? fun r => r.holds c.toNat with
  | none => exact ⟨c, rfl, hc⟩
  | some r =>
      have hholds : (r.first ≤ c.toNat ∧ c.toNat ≤ r.last) ∧ (c.toNat - r.first) % r.step = 0 := by
        simpa [CaseRun.holds] using List.find?_some hrun
      have hfirst : r.first ≠ 0x212a := by
        intro hfirst
        have hlast : lowerRuns.all (fun r => r.first ≠ 0x212a || r.last = 0x212a) = true := by
          decide +kernel
        have hrlast : r.last = 0x212a := by
          simpa [hfirst] using List.all_eq_true.1 hlast r (List.mem_of_find?_eq_some hrun)
        omega
      have habove := staysAbove_of_mem_lowerRuns (List.mem_of_find?_eq_some hrun) hfirst
      simp only [CaseRun.staysAbove, Bool.and_eq_true, Bool.or_eq_true, decide_eq_true_eq]
        at habove
      have hvalid : ((c.toNat + r.shift).toNat).isValidChar := by
        rw [Nat.isValidChar]
        omega
      refine ⟨_, rfl, ?_⟩
      rw [toNat_ofNat_of_isValidChar hvalid]
      omega

/-- No character outside of ASCII is safe. -/
theorem safeChar_of_le {c : Char} (hc : 0x80 ≤ c.toNat) : safeChar c = '_' := by
  unfold safeChar
  split
  · next hname => exact absurd (IsNameChar.lt hname) (Nat.not_lt.2 hc)
  · rfl

/-- Making a character safe and converting it to lower case may change places. -/
theorem safeChar_toLower {c : Char} (hc : c.toNat < 0x80) :
    safeChar c.toLower = (safeChar c).toLower :=
  forall_ascii (p := fun c => safeChar c.toLower = (safeChar c).toLower) (by decide) hc

/-! ## Texts -/

/-- **Letter by letter**, what a plain text is in lower case is made safe as the text is. -/
theorem map_safeChar_lowerAfter {cs : List Char} (h : ∀ c ∈ cs, isPlain c = true)
    (before : List Char) :
    (lowerAfter before cs).map safeChar = (cs.map safeChar).map Char.toLower := by
  induction cs generalizing before with
  | nil => rfl
  | cons c cs ih =>
      rw [List.forall_mem_cons] at h
      have himage : List.map safeChar (if c.toNat = 0x3a3 then
          [Char.ofNat (if meetsCased before && !meetsCased cs then 0x3c2 else 0x3c3)]
          else lowerChar c) = [(safeChar c).toLower] := by
        by_cases hsigma : c.toNat = 0x3a3
        · have hsafe : safeChar c = '_' := safeChar_of_le (by omega)
          rw [if_pos hsigma, hsafe]
          split <;> decide
        · rw [if_neg hsigma]
          by_cases hc : c.toNat < 0x80
          · rw [lowerChar_ascii hc, List.map_singleton, safeChar_toLower hc]
          · obtain ⟨d, hd, hle⟩ := lowerChar_of_isPlain h.1 (Nat.not_lt.1 hc)
            rw [hd, List.map_singleton, safeChar_of_le hle, safeChar_of_le (Nat.not_lt.1 hc)]
            rfl
      rw [lowerAfter, List.map_append, himage, ih h.2]
      rfl

theorem toLower_eq_underscore_iff (c : Char) : c.toLower = '_' ↔ c = '_' := by
  by_cases hc : c.toNat < 0x80
  · exact forall_ascii (p := fun c => c.toLower = '_' ↔ c = '_') (by decide) hc
  · have hupper : c.isUpper = false := Bool.eq_false_iff.2 fun h => hc (lt_of_isUpper h)
    have hlower : c.toLower = c := dif_neg (of_decide_eq_false hupper)
    rw [hlower]

/-- Underscores at the ends are the same ones in lower case. -/
theorem map_stripUnderscores (cs : List Char) :
    (stripUnderscores cs).map Char.toLower = stripUnderscores (cs.map Char.toLower) := by
  have hmark : (fun c : Char => decide (c = '_')) ∘ Char.toLower = fun c => decide (c = '_') := by
    funext c
    simp [toLower_eq_underscore_iff]
  rw [stripUnderscores, stripUnderscores, List.dropWhile_map, hmark, ← List.map_reverse,
    List.dropWhile_map, hmark, List.map_reverse]

/-- Puts a letter first, in lower case. -/
def startLower : List Char → List Char
  | [] => []
  | c :: cs => if c.isDigit then 'l' :: c :: cs else c :: cs

/-- The letter that comes before a digit at the start is in lower case as well. -/
theorem map_startUpper {cs : List Char} (h : ∀ c ∈ cs, c.toNat < 0x80) :
    (startUpper cs).map Char.toLower = startLower (cs.map Char.toLower) := by
  cases cs with
  | nil => rfl
  | cons c cs =>
      have hc := h c List.mem_cons_self
      have hdigit : c.toLower.isDigit = c.isDigit :=
        forall_ascii (p := fun c => c.toLower.isDigit = c.isDigit) (by decide) hc
      rw [startUpper, List.map_cons, startLower, hdigit]
      split
      · rfl
      · rw [List.map_cons, toLower_toUpper hc]

/-- A name in lower case, by the characters of its token. -/
theorem toList_lower_safeName (token : String) :
    (lower (safeName token)).toList =
      startLower (stripUnderscores ((token.toList.map safeChar).map Char.toLower)) := by
  have hascii : ∀ c ∈ stripUnderscores (token.toList.map safeChar), c.toNat < 0x80 := by
    intro c hc
    obtain ⟨d, -, rfl⟩ := List.mem_map.1 (mem_of_mem_stripUnderscores hc)
    exact (isNameChar_safeChar d).lt
  rw [← map_stripUnderscores, ← map_startUpper hascii]
  rcases safeName_eq_empty_or token with hempty | hsafe
  · have hnone : startUpper (stripUnderscores (token.toList.map safeChar)) = [] := by
      simpa [safeName] using hempty
    rw [hempty, hnone]
    rfl
  · rw [hsafe.toList_lower, safeName, String.toList_ofList]

/-- **Plain tokens of one code have one name**, in lower case. -/
theorem lower_safeName_eq {token token' : String} (h : ∀ c ∈ token.toList, isPlain c = true)
    (h' : ∀ c ∈ token'.toList, isPlain c = true) (heq : lower token = lower token') :
    lower (safeName token) = lower (safeName token') := by
  have hchars : lowerAfter [] token.toList = lowerAfter [] token'.toList := by
    simpa [lower] using congrArg String.toList heq
  apply String.toList_injective
  rw [toList_lower_safeName, toList_lower_safeName, ← map_safeChar_lowerAfter h [],
    ← map_safeChar_lowerAfter h' [], hchars]

end StringCatalog
