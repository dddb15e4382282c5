/-!
# StringCatalog.Text.Ranges

Sets of characters as lists of ranges of code points, the form in which the
tables of character properties are written.
-/

namespace StringCatalog.Text

/-- Ranges of code points, both ends included. -/
abbrev Ranges := List (Nat × Nat)

/-- Whether a code point lies in one of the ranges. -/
def Ranges.holds (table : Ranges) (n : Nat) : Bool :=
  table.any fun r => r.1 ≤ n && n ≤ r.2

end StringCatalog.Text
