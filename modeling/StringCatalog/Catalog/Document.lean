import StringCatalog.Catalog
import StringCatalog.Log
import StringCatalog.Markup.Element
import StringCatalog.Path
import StringCatalog.Text.Escape
import StringCatalog.Text.Quoted

/-!
# StringCatalog.Catalog.Document

The catalog in a document.  Entries are the `string`, `plurals` and
`string-array` elements directly in the root, in no namespace and with a name;
of several entries of one name the last one counts, at the place of the first.
-/

namespace StringCatalog

open Markup Text

namespace Catalog

/-- The text of an element, with its escapes resolved. -/
def textOf (e : Element) : String := unescape e.text

def itemsOf (e : Element) : List Element := e.elements.filter (·.isNamed "item")

def nameAttribute : String := "name"

def quantityAttribute : String := "quantity"

/-- The kinds of entries by the names of their elements. -/
inductive Kind where
  | string
  | plurals
  | array
  deriving DecidableEq, Repr

def Kind.tag : Kind → String
  | .string => "string"
  | .plurals => "plurals"
  | .array => "string-array"

/-- The kind of an element, if it is an entry. -/
def kindOf? (e : Element) : Option Kind :=
  [Kind.string, .plurals, .array].find? fun k => e.isNamed k.tag

/-- The category and text of an item of a plural, if its category is a known one. -/
def pluralItem? (item : Element) : Option (String × String) :=
  match item.attribute? quantityAttribute with
  | some q => if Entry.pluralCategories.contains q then some (q, textOf item) else none
  | none => none

def entryOf (kind : Kind) (name : String) (e : Element) : Entry :=
  match kind with
  | .string => .ofText name (textOf e)
  | .plurals => .plurals name (OrderedMap.ofList ((itemsOf e).filterMap pluralItem?))
  | .array => .array name ((itemsOf e).map textOf)

/-- The kind and name of an element that defines an entry. -/
def definition? (e : Element) : Option (Kind × String) := do
  let kind ← kindOf? e
  let name ← e.attribute? nameAttribute
  if name.isEmpty then none else pure (kind, name)

/-- The entries that a document defines, in order, repeated names included. -/
def definitions (root : Element) : List (String × Entry) :=
  root.elements.filterMap fun e =>
    (definition? e).map fun (kind, name) => (name, entryOf kind name e)

def ofDocument (root : Element) : Catalog := (OrderedMap.ofList (definitions root)).values

/-! ## Reports -/

def itemReport (path : Path) (name : String) (item : Element) : Log :=
  match item.attribute? quantityAttribute with
  | none => [⟨.catalog, .debug, path.text ++ ": plurals " ++ name ++ " has an item without quantity"⟩]
  | some q =>
    if Entry.pluralCategories.contains q then []
    else [⟨.catalog, .warning, path.text ++ ": plurals " ++ name ++ " has unknown quantity " ++ quoted q⟩]

/-- What is reported of an element directly in the root. -/
def elementReport (path : Path) (e : Element) : Log :=
  match kindOf? e, definition? e with
  | none, _ => []
  | some kind, none =>
    [⟨.catalog, .debug, path.text ++ ": skipping <" ++ kind.tag ++ "> without a name"⟩]
  | some .plurals, some (_, name) => (itemsOf e).flatMap (itemReport path name)
  | some _, some _ => []

def documentReport (path : Path) (root : Element) : Log := root.elements.flatMap (elementReport path)

end Catalog

end StringCatalog
