import StringCatalog.OrderedMap
import StringCatalog.Text.Quoted

/-!
# StringCatalog.Package.Literal

The literals of compiled modules: texts, rows of texts, maps and read-only
maps.  Each writer has a reader beside it that takes the literal from the front
of a text and returns what follows.
-/

namespace StringCatalog.Package

open Text

/-! ## Writing -/

def commaSeparated (items : List (List Char)) : List Char := [',', ' '].intercalate items

def textLiteral (s : String) : List Char := quotedChars s.toList

/-- A row of texts; a single one keeps a comma behind it. -/
def rowLiteral (items : List String) : List Char :=
  '(' :: commaSeparated (items.map textLiteral) ++ (if items.length = 1 then [',', ')'] else [')'])

def entryLiteral (write : α → List Char) (e : String × α) : List Char :=
  textLiteral e.1 ++ ':' :: ' ' :: write e.2

/-- A map whose keys are texts. -/
def mapLiteral (write : α → List Char) (m : OrderedMap String α) : List Char :=
  '\x7b' :: commaSeparated (m.map (entryLiteral write)) ++ ['\x7d']

def readOnlyOpening : List Char := "MappingProxyType(".toList

/-- A read-only map whose keys are texts. -/
def readOnlyLiteral (write : α → List Char) (m : OrderedMap String α) : List Char :=
  readOnlyOpening ++ mapLiteral write m ++ [')']

/-! ## Reading -/

/-- A reader takes something from the front of a text and returns what follows. -/
abbrev Reader (α : Type) := List Char → Option (α × List Char)

/-- What follows a fixed piece of text. -/
def expect? (piece cs : List Char) : Option (List Char) :=
  if piece.isPrefixOf cs then some (cs.drop piece.length) else none

def readText? : Reader String := fun cs =>
  (readQuoted? cs).map fun (body, rest) => (String.ofList body, rest)

/-- Reads items up to `close`, each but the last with a comma behind it; `more` tells whether an
item must come next. -/
def readItems? (read : Reader α) (close : List Char) (more : Bool) (cs : List Char) :
    Option (List α × List Char) :=
  match expect? close cs with
  | some rest => if more then none else some ([], rest)
  | none =>
    match read cs with
    | none => none
    | some (item, rest) =>
      match expect? [',', ' '] rest with
      | none => (expect? close rest).map fun after => ([item], after)
      | some rest' =>
        if _h : rest'.length < cs.length then
          (readItems? read close true rest').map fun (items, after) => (item :: items, after)
        else none
termination_by cs.length

def readRow? : Reader (List String) := fun cs => do
  let start ← expect? ['('] cs
  match readText? start with
  | some (item, ',' :: ')' :: rest) => pure ([item], rest)
  | _ => readItems? readText? [')'] false start

/-- Reads an entry of a map. -/
def readBinding? (read : Reader α) : Reader (String × α) := fun cs => do
  let (key, rest) ← readText? cs
  let (value, rest) ← read (← expect? [':', ' '] rest)
  pure ((key, value), rest)

/-- Reads a map whose keys are texts. -/
def readMap? (read : Reader α) : Reader (OrderedMap String α) := fun cs => do
  readItems? (readBinding? read) ['\x7d'] false (← expect? ['\x7b'] cs)

/-- Reads a read-only map whose keys are texts. -/
def readReadOnly? (read : Reader α) : Reader (OrderedMap String α) := fun cs => do
  let (m, rest) ← readMap? read (← expect? readOnlyOpening cs)
  pure (m, ← expect? [')'] rest)

end StringCatalog.Package
