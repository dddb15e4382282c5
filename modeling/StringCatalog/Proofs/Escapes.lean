import Mathlib.Data.List.Infix
import StringCatalog.Text.Escape

/-!
# StringCatalog.Proofs.Escapes

What the escapes of catalog texts can express.  There is no escape for the
backslash, so a backslash before an `n` or a `t` is always taken as an escape
and never part of a text; everything else can be written.

* `isClear_unescapeChars` — resolving escapes leaves no backslash before an `n`
  or a `t`;
* `unescapeChars_escapeChars` — a text without such a backslash is written with
  escapes and read back;
* `unescape_escape_iff` — so these are the texts that can be expressed.
-/

namespace StringCatalog.Text

variable {c d e l : Char} {cs : List Char}

/-! ## Escapes and their letters -/

/-- Whether a character is a letter that a backslash makes an escape, unlike the quotes. -/
def IsEscapeLetter (c : Char) : Prop := c = 'n' ∨ c = 't'

theorem escaped?_ne_none (h : IsEscapeLetter c) : escaped? c ≠ none := by
  rcases h with rfl | rfl <;> decide

/-- What an escape stands for is neither a backslash nor the letter of an escape. -/
theorem of_escaped? (h : escaped? d = some e) : e ≠ '\\' ∧ ¬ IsEscapeLetter e := by
  have hquote : ∀ q, q = '"' ∨ q = '\x27' → q ≠ '\\' ∧ ¬ IsEscapeLetter q := by
    rintro q (rfl | rfl) <;> simp [IsEscapeLetter]
  unfold escaped? at h
  split at h
  · next hd =>
    cases h
    exact hquote d (by simpa using hd)
  · split at h
    · cases h
      simp [IsEscapeLetter]
    · split at h <;> cases h
      simp [IsEscapeLetter]

/-- An escape stands for the character that it was written for. -/
theorem escaped?_of_escapeLetter? (h : escapeLetter? c = some l) : escaped? l = some c := by
  unfold escapeLetter? at h
  split at h
  · next hc =>
    cases h
    rw [escaped?, if_pos hc]
  · split at h
    · next hc =>
      cases h
      rw [hc]
      decide
    · split at h
      · next hc =>
        cases h
        rw [hc]
        decide
      · cases h

/-- A character that needs no escape is the letter of one only if it is an `n` or a `t`. -/
theorem escaped?_eq_none (h : escapeLetter? c = none) (hletter : ¬ IsEscapeLetter c) :
    escaped? c = none := by
  rw [IsEscapeLetter, not_or] at hletter
  unfold escapeLetter? at h
  split at h
  · cases h
  · next hquote => rw [escaped?, if_neg hquote, if_neg hletter.1, if_neg hletter.2]

/-! ## Texts without a backslash before a letter -/

/-- Whether no backslash stands right before an `n` or a `t`. -/
def IsClear (cs : List Char) : Prop := ∀ l, IsEscapeLetter l → ¬ ['\\', l] <:+: cs

theorem isClear_nil : IsClear [] := by
  intro l _ h
  simpa using List.infix_nil.1 h

/-- A text is clear if it does not start with an escape and the rest is clear. -/
theorem isClear_cons :
    IsClear (c :: cs) ↔ (c = '\\' → ∀ l, cs.head? = some l → ¬ IsEscapeLetter l) ∧ IsClear cs := by
  have hprefix : ∀ l, ['\\', l] <+: c :: cs ↔ c = '\\' ∧ cs.head? = some l := by
    intro l
    cases cs with
    | nil => simp [List.cons_prefix_cons]
    | cons d cs => simp [List.cons_prefix_cons, eq_comm]
  simp only [IsClear, List.infix_cons_iff, hprefix, not_or, not_and]
  constructor
  · exact fun h => ⟨fun hc l hl hletter => (h l hletter).1 hc hl, fun l hletter => (h l hletter).2⟩
  · exact fun h l hletter => ⟨fun hc hl => h.1 hc l hl hletter, h.2 l hletter⟩

/-- Any character but a backslash may come first. -/
theorem isClear_cons_of_ne (hc : c ≠ '\\') : IsClear (c :: cs) ↔ IsClear cs := by
  rw [isClear_cons]
  exact and_iff_right fun h => absurd h hc

/-! ## Resolving -/

/-- Any character but a backslash stays as it is. -/
theorem unescapeChars_cons_of_ne (hc : c ≠ '\\') (cs : List Char) :
    unescapeChars (c :: cs) = c :: unescapeChars cs := by
  cases cs with
  | nil => rfl
  | cons d cs => rw [unescapeChars, if_neg hc]

/-- An escape becomes the character that it stands for. -/
theorem unescapeChars_escape (h : escaped? l = some c) (cs : List Char) :
    unescapeChars ('\\' :: l :: cs) = c :: unescapeChars cs := by
  rw [unescapeChars, if_pos rfl, h]

/-- A backslash that starts no escape stands for itself. -/
theorem unescapeChars_backslash (h : ∀ d, cs.head? = some d → escaped? d = none) :
    unescapeChars ('\\' :: cs) = '\\' :: unescapeChars cs := by
  cases cs with
  | nil => rfl
  | cons d cs => rw [unescapeChars, if_pos rfl, h d rfl]

/-- A text starts with the letter of an escape only where it was written so. -/
theorem head?_of_head?_unescapeChars (hletter : IsEscapeLetter l)
    (h : (unescapeChars cs).head? = some l) : cs.head? = some l := by
  unfold unescapeChars at h
  split at h
  · cases h
  · exact h
  · split at h
    · split at h
      · next hescape =>
        cases h
        exact absurd hletter (of_escaped? hescape).2
      · exact h
    · exact h

/-- **Resolving escapes leaves no backslash before an `n` or a `t`.** -/
theorem isClear_unescapeChars (cs : List Char) : IsClear (unescapeChars cs) := by
  fun_induction unescapeChars cs with
  | case1 => exact isClear_nil
  | case2 c => exact isClear_cons.2 ⟨fun _ _ => nofun, isClear_nil⟩
  | case3 d rest e hescape ih => exact (isClear_cons_of_ne (of_escaped? hescape).1).2 ih
  | case4 d rest hnone ih =>
    -- the backslash was kept, so what follows it is no letter of an escape, resolved or not
    refine isClear_cons.2 ⟨fun _ l hhead hletter => ?_, ih⟩
    cases head?_of_head?_unescapeChars hletter hhead
    exact escaped?_ne_none hletter hnone
  | case5 c d rest hc ih => exact (isClear_cons_of_ne hc).2 ih

/-! ## Writing -/

/-- A character that has an escape is written as that. -/
theorem escapeChars_cons_of_some (h : escapeLetter? c = some l) (cs : List Char) :
    escapeChars (c :: cs) = '\\' :: l :: escapeChars cs := by
  simp [escapeChars, h]

/-- One that has none is written as it is. -/
theorem escapeChars_cons_of_none (h : escapeLetter? c = none) (cs : List Char) :
    escapeChars (c :: cs) = c :: escapeChars cs := by
  simp [escapeChars, h]

/-- What is written starts no escape after a backslash that may stand before the text. -/
theorem escaped?_of_head?_escapeChars (h : ∀ l, cs.head? = some l → ¬ IsEscapeLetter l)
    (hd : (escapeChars cs).head? = some d) : escaped? d = none := by
  cases cs with
  | nil => cases hd
  | cons c cs =>
      cases hletter : escapeLetter? c with
      | some l =>
          rw [escapeChars_cons_of_some hletter] at hd
          cases hd
          decide
      | none =>
          rw [escapeChars_cons_of_none hletter] at hd
          cases hd
          exact escaped?_eq_none hletter (h d rfl)

/-- **What is written with escapes is read back**, if no backslash stands before an `n` or a `t`. -/
theorem unescapeChars_escapeChars (h : IsClear cs) : unescapeChars (escapeChars cs) = cs := by
  induction cs with
  | nil => rfl
  | cons c cs ih =>
      obtain ⟨hhead, hclear⟩ := isClear_cons.1 h
      cases hletter : escapeLetter? c with
      | some l =>
          rw [escapeChars_cons_of_some hletter,
            unescapeChars_escape (escaped?_of_escapeLetter? hletter), ih hclear]
      | none =>
          rw [escapeChars_cons_of_none hletter]
          by_cases hc : c = '\\'
          · subst hc
            rw [unescapeChars_backslash fun d => escaped?_of_head?_escapeChars (hhead rfl),
              ih hclear]
          · rw [unescapeChars_cons_of_ne hc, ih hclear]

/-! ## Texts -/

/-- Whether a text can be written in a catalog: no backslash stands right before an `n` or a `t`. -/
def Expressible (s : String) : Prop := IsClear s.toList

/-- **What the escapes of a catalog can express**: a text is read back from its written form exactly
when no backslash stands right before an `n` or a `t` in it, and nothing that is read has such a
backslash, so no other way of writing expresses more. -/
theorem unescape_escape_iff :
    (∀ s, unescape (escape s) = s ↔ Expressible s) ∧
    (∀ x, Expressible (unescape x)) ∧
    ∀ s, (∃ x, unescape x = s) ↔ Expressible s := by
  have hread : ∀ x, Expressible (unescape x) := by
    intro x
    rw [Expressible, unescape, String.toList_ofList]
    exact isClear_unescapeChars x.toList
  have hback : ∀ s, Expressible s → unescape (escape s) = s := by
    intro s h
    rw [unescape, escape, String.toList_ofList, unescapeChars_escapeChars h, String.ofList_toList]
  refine ⟨fun s => ⟨fun h => h ▸ hread (escape s), hback s⟩, hread, fun s => ?_⟩
  exact ⟨fun ⟨x, h⟩ => h ▸ hread x, fun h => ⟨escape s, hback s h⟩⟩

/-- A backslash before an `n` is lost. -/
example : unescape (escape "C:\\new") = "C:\new" := by decide

end StringCatalog.Text
