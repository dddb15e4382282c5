import StringCatalog.Value

/-!
# StringCatalog.Lookup.Plural

The choice of a plural category by quantity.  Exactly 0, 1 and 2 ask for
`zero`, `one` and `two` and more than 2 for `many`; where the category asked
for is not on offer, `other` stands in.  `few` is never chosen.
-/

namespace StringCatalog.Lookup

/-- Why no plural category can be chosen. -/
inductive PluralError where
  | notComparable (typeName : String)
  | notIterable (typeName : String)
  deriving DecidableEq, Repr

def PluralError.message : PluralError → String
  | .notComparable t => "'>' not supported between instances of '" ++ t ++ "' and 'int'"
  | .notIterable t => "argument of type '" ++ t ++ "' is not iterable"

/-- Whether a text stands somewhere inside another one. -/
def isInfix (part : List Char) : List Char → Bool
  | [] => part.isEmpty
  | c :: cs => part.isPrefixOf (c :: cs) || isInfix part cs

/-- Whether a category is on offer: as an item of a list, as a key of a map or inside a text. -/
def offers (categories : Value) (name : String) : Except PluralError Bool :=
  match categories with
  | .list items | .tuple items | .set items => .ok (items.any (· == .text name))
  | .map entries => .ok (OrderedMap.has entries (.text name))
  | .text s => .ok (isInfix name.toList s.toList)
  | v => .error (.notIterable v.typeName)

/-- Whether a quantity is greater than an integer. -/
def exceeds (quantity : Value) (i : Int) : Except PluralError Bool :=
  match quantity with
  | .int n => .ok (n > i)
  | .bool b => .ok ((if b then 1 else 0) > i)
  | .float x => .ok (x.exceedsInt i)
  | v => .error (.notComparable v.typeName)

/-- The categories with the quantities that ask for them, in the order in which they are tried. -/
def pluralRules (quantity : Value) : List (Except PluralError Bool × String) := [
  (.ok (quantity == .int 0), "zero"),
  (.ok (quantity == .int 1), "one"),
  (.ok (quantity == .int 2), "two"),
  (exceeds quantity 2, "many"),
  (.ok true, "other")]

/-- The first category that is asked for and on offer; what is not asked for is not looked up. -/
def firstOffered (categories : Value) :
    List (Except PluralError Bool × String) → Except PluralError (Option String)
  | [] => .ok none
  | (.error e, _) :: _ => .error e
  | (.ok false, _) :: rules => firstOffered categories rules
  | (.ok true, name) :: rules =>
    match offers categories name with
    | .error e => .error e
    | .ok true => .ok (some name)
    | .ok false => firstOffered categories rules

/-- The category for a quantity, if one is on offer. -/
def pluralCategory (quantity categories : Value) : Except PluralError (Option String) :=
  firstOffered categories (pluralRules quantity)

end StringCatalog.Lookup
