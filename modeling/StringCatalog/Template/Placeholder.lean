import StringCatalog.Template.Position

/-!
# StringCatalog.Template.Placeholder

Placeholders in the texts of a catalog: a percent sign, perhaps the position of
an argument, and a conversion letter.  A doubled percent sign is met like a
placeholder, so that it cannot start one, and is then left out.

* `placeholders` — the distinct placeholders of a text in order of their first
  occurrence.
-/

namespace StringCatalog.Template

/-- A placeholder: the digits of its position, if it has one, and its letter. -/
structure Placeholder where
  position : Option (List Char)
  letter : Char
  deriving DecidableEq, Repr

/-- The letters of placeholders, the second percent sign of a pair included. -/
def placeholderLetters : List Char := "diouxXeEfFgGaAcspn%".toList

namespace Placeholder

def chars (p : Placeholder) : List Char := '%' :: positionChars p.position ++ [p.letter]

/-- The pair of percent signs that stands for one. -/
def literalPercent : Placeholder := ⟨none, '%'⟩

/-- The placeholder whose percent sign precedes these characters, and what follows it. -/
def read? (cs : List Char) : Option (Placeholder × List Char) :=
  let (position, rest) := match readPosition? cs with
    | some (ds, rest) => (some ds, rest)
    | none => (none, cs)
  match rest with
  | c :: rest => if placeholderLetters.contains c then some (⟨position, c⟩, rest) else none
  | [] => none

/-- What is read is the placeholder and the rest. -/
theorem eq_of_read? {cs : List Char} {p : Placeholder} {rest : List Char}
    (h : read? cs = some (p, rest)) : '%' :: cs = p.chars ++ rest := by
  unfold read? at h
  cases hp : readPosition? cs with
  | none =>
    rw [hp] at h
    cases cs with
    | nil => cases h
    | cons c cs =>
      simp only at h
      split at h
      · cases h; simp [chars, positionChars]
      · cases h
  | some found =>
    obtain ⟨ds, after⟩ := found
    rw [hp] at h
    cases after with
    | nil => cases h
    | cons c after =>
      simp only at h
      split at h
      · cases h
        rw [eq_of_readPosition? hp]
        simp [chars, positionChars]
      · cases h

end Placeholder

/-- The placeholders met from left to right with their offsets, after passing over `skip`
characters; none overlaps an earlier one. -/
def occurrencesFrom (offset : Nat) : (skip : Nat) → List Char → List (Nat × Placeholder)
  | _, [] => []
  | skip + 1, _ :: rest => occurrencesFrom (offset + 1) skip rest
  | 0, c :: rest =>
    if c = '%' then
      match Placeholder.read? rest with
      | some (p, _) => (offset, p) :: occurrencesFrom (offset + 1) (p.chars.length - 1) rest
      | none => occurrencesFrom (offset + 1) 0 rest
    else occurrencesFrom (offset + 1) 0 rest

/-- The placeholders of a text with their offsets, doubled percent signs included. -/
def occurrences (cs : List Char) : List (Nat × Placeholder) := occurrencesFrom 0 0 cs

/-- The distinct members of a list, each at its first place. -/
def distinct [BEq α] (xs : List α) : List α :=
  xs.foldl (fun seen x => if seen.contains x then seen else seen ++ [x]) []

/-- The distinct placeholders of a text, in order of their first occurrence. -/
def placeholders (s : String) : List String :=
  let met := (occurrences s.toList).map (·.2)
  distinct ((met.filter (· ≠ .literalPercent)).map fun p => String.ofList p.chars)

end StringCatalog.Template
