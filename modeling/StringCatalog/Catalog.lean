import StringCatalog.OrderedMap
import StringCatalog.Template.Placeholder

/-!
# StringCatalog.Catalog

The entries of a catalog: plain texts, texts with placeholders, plurals and
arrays.  `Catalog.simple` and its three companions show the entries of one kind
by key.
-/

namespace StringCatalog

/-- One entry.  The items of a plural are in the order in which their categories came in. -/
inductive Entry where
  | simple (key value : String)
  | formatted (key value : String) (placeholders : List String)
  | plurals (key : String) (items : OrderedMap String String)
  | array (key : String) (items : List String)
  deriving DecidableEq, Repr

namespace Entry

def key : Entry → String
  | .simple k _ | .formatted k _ _ | .plurals k _ | .array k _ => k

/-- A text as a plain entry, or as one with placeholders if it has any. -/
def ofText (key value : String) : Entry :=
  match Template.placeholders value with
  | [] => .simple key value
  | tokens => .formatted key value tokens

/-- The key and text of a plain entry. -/
def simple? : Entry → Option (String × String)
  | .simple k v => some (k, v)
  | _ => none

/-- The key of an entry with placeholders, its text and the placeholders. -/
def formatted? : Entry → Option (String × String × List String)
  | .formatted k v ps => some (k, v, ps)
  | _ => none

/-- The key and items of a plural. -/
def plurals? : Entry → Option (String × OrderedMap String String)
  | .plurals k items => some (k, items)
  | _ => none

/-- The key and items of an array. -/
def array? : Entry → Option (String × List String)
  | .array k items => some (k, items)
  | _ => none

def pluralCategories : List String := ["zero", "one", "two", "few", "many", "other"]

end Entry

/-- The entries of one locale, in order. -/
abbrev Catalog := List Entry

namespace Catalog

/-- What a view shows of entries: each key at its first place and with its last value. -/
def viewBy (part : Entry → Option (String × α)) (c : Catalog) : OrderedMap String α :=
  OrderedMap.ofList (c.filterMap part)

/-- The plain texts by key. -/
def simple (c : Catalog) : OrderedMap String String :=
  c.viewBy Entry.simple?

/-- The texts with placeholders by key, each with its placeholders. -/
def formatted (c : Catalog) : OrderedMap String (String × List String) :=
  c.viewBy Entry.formatted?

def plurals (c : Catalog) : OrderedMap String (OrderedMap String String) :=
  c.viewBy Entry.plurals?

def arrays (c : Catalog) : OrderedMap String (List String) :=
  c.viewBy Entry.array?

end Catalog

end StringCatalog
