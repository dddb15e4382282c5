/-!
# StringCatalog.Number.Rounding

Division of natural numbers rounded to the nearest integer, ties to even.
-/

namespace StringCatalog.Number

/-- The quotient `num / den` to the nearest integer; a half goes to the even neighbour. -/
def roundDiv (num den : Nat) : Nat :=
  let q := num / den
  let r := num % den
  if 2 * r < den then q
  else if den < 2 * r then q + 1
  else if q % 2 = 0 then q else q + 1

end StringCatalog.Number
