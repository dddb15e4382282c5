import StringCatalog.Catalog
import StringCatalog.Locale
import StringCatalog.Package.Literal

/-!
# StringCatalog.Package.Tables

The module that holds the texts of one locale: a title and four tables, one for
each kind of entry.

* `Tables.ofCatalog` — the tables of a catalog, filled entry by entry;
* `Tables.chars` and `Tables.read?` — the module as text and back.
-/

namespace StringCatalog.Package

open Text

/-- The line that every compiled module starts with. -/
def headerLine : String := "# Generated by localegen. Do not edit."

/-- A text with placeholders, and the placeholders. -/
structure FormattedText where
  value : String
  placeholders : List String
  deriving DecidableEq, Repr

/-- What the module of a locale holds. -/
structure Tables where
  title : String
  simple : OrderedMap String String
  formatted : OrderedMap String FormattedText
  plurals : OrderedMap String (OrderedMap String String)
  arrays : OrderedMap String (List String)
  deriving DecidableEq, Repr

namespace Tables

def empty (title : String) : Tables := ⟨title, [], [], [], []⟩

/-- Writes one entry into the table of its kind. -/
def add (t : Tables) : Entry → Tables
  | .simple k v => {t with simple := t.simple.put k v}
  | .formatted k v ps => {t with formatted := t.formatted.put k ⟨v, ps⟩}
  | .plurals k items => {t with plurals := t.plurals.put k items}
  | .array k items => {t with arrays := t.arrays.put k items}

def titleOf (l : Locale) : String :=
  "String tables for " ++ l.displayName ++ " (" ++ l.code ++ ")."

def ofCatalog (l : Locale) (c : Catalog) : Tables := c.foldl add (empty (titleOf l))

/-! ## As text -/

/-- What the text of a formatted entry starts with. -/
def formattedOpening : List Char := "FormattedString(".toList

/-- A text with its placeholders. -/
def formattedLiteral (f : FormattedText) : List Char :=
  formattedOpening ++ textLiteral f.value ++ ',' :: ' ' :: rowLiteral f.placeholders ++ [')']

/-- What stands between the title and the first table. -/
def importLines : List Char :=
  "\nfrom types import MappingProxyType\nfrom .formatted_string import FormattedString\n".toList

def tableOpening (name : String) : List Char := name.toList ++ " = ".toList

def tableLine (name : String) (write : α → List Char) (m : OrderedMap String α) : List Char :=
  tableOpening name ++ readOnlyLiteral write m ++ ['\n']

/-- The module as text. -/
def chars (t : Tables) : List Char :=
  headerLine.toList ++ '\n' :: documentChars t.title.toList ++ importLines ++
    tableLine "SIMPLE" textLiteral t.simple ++
    tableLine "FORMATTED" formattedLiteral t.formatted ++
    tableLine "PLURALS" (readOnlyLiteral textLiteral) t.plurals ++
    tableLine "ARRAYS" rowLiteral t.arrays

def source (t : Tables) : String := String.ofList t.chars

/-! ## Reading -/

def readFormatted? : Reader FormattedText := fun cs => do
  let (value, rest) ← readText? (← expect? formattedOpening cs)
  let (placeholders, rest) ← readRow? (← expect? [',', ' '] rest)
  pure (⟨value, placeholders⟩, ← expect? [')'] rest)

def readTable? (name : String) (read : Reader α) : Reader (OrderedMap String α) := fun cs => do
  let (m, rest) ← readReadOnly? read (← expect? (tableOpening name) cs)
  pure (m, ← expect? ['\n'] rest)

def read? (cs : List Char) : Option Tables := do
  let (title, rest) ← readText? (← expect? (headerLine.toList ++ ['\n']) cs)
  let rest ← expect? importLines rest
  let (simple, rest) ← readTable? "SIMPLE" readText? rest
  let (formatted, rest) ← readTable? "FORMATTED" readFormatted? rest
  let (plurals, rest) ← readTable? "PLURALS" (readReadOnly? readText?) rest
  let (arrays, rest) ← readTable? "ARRAYS" readRow? rest
  if rest.isEmpty then
    pure { title, simple, formatted, plurals, arrays }
  else none

end Tables

end StringCatalog.Package
