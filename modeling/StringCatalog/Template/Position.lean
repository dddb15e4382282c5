/-!
# StringCatalog.Template.Position

The position of an argument inside a template: digits followed by a dollar
sign.  Placeholders and conversions both start with one.
-/

namespace StringCatalog.Template

/-- The digits of a position and what follows the dollar sign after them. -/
def readPosition? (cs : List Char) : Option (List Char × List Char) :=
  match cs.takeWhile Char.isDigit, cs.dropWhile Char.isDigit with
  | d :: ds, '$' :: rest => some (d :: ds, rest)
  | _, _ => none

/-- A position that may be missing, as it is written. -/
def positionChars : Option (List Char) → List Char
  | none => []
  | some ds => ds ++ ['$']

/-- What is read is the position and the rest. -/
theorem eq_of_readPosition? {cs ds rest : List Char} (h : readPosition? cs = some (ds, rest)) :
    cs = ds ++ '$' :: rest := by
  unfold readPosition? at h
  split at h
  · next d ds' rest' ht hd =>
    cases h
    rw [← ht, ← hd, List.takeWhile_append_dropWhile]
  · cases h

/-- A position holds at least one digit, and digits only. -/
theorem digits_of_readPosition? {cs ds rest : List Char} (h : readPosition? cs = some (ds, rest)) :
    ds ≠ [] ∧ ∀ d ∈ ds, d.isDigit := by
  unfold readPosition? at h
  split at h
  · next d ds' rest' ht hd =>
    cases h
    refine ⟨by simp, fun x hx => ?_⟩
    have := List.all_takeWhile (p := Char.isDigit) (l := cs)
    rw [ht, List.all_eq_true] at this
    exact this x hx
  · cases h

end StringCatalog.Template
