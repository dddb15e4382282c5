import StringCatalog.Markup.Character
import StringCatalog.Number.Decimal

/-!
# StringCatalog.Markup.Lexeme

The smallest parts of a document: names, quoted literals, references to
characters, comments, processing instructions and sections of raw text.  Each
reader takes its part from the front of the text and returns what follows, or
nothing if the part is malformed.
-/

namespace StringCatalog.Markup

open Number

/-- Something read from the front of a text, and what follows it. -/
abbrev Reader (α : Type) := List Char → Option (α × List Char)

/-- What follows a fixed text. -/
def expect? (s : String) (cs : List Char) : Option (List Char) :=
  let want := s.toList
  if want.isPrefixOf cs then some (cs.drop want.length) else none

def startsWith (s : String) (cs : List Char) : Bool := s.toList.isPrefixOf cs

def skipBlanks (cs : List Char) : List Char := cs.dropWhile isBlank

/-- What follows leading blanks, of which there must be some. -/
def expectBlanks? (cs : List Char) : Option (List Char) :=
  match cs with
  | c :: rest => if isBlank c then some (skipBlanks rest) else none
  | [] => none

/-- Reads a name without colons. -/
def readPlainName? : Reader String := fun cs =>
  match cs with
  | c :: rest =>
    if isNameStart c then
      some (String.ofList (c :: rest.takeWhile isNameRest), rest.dropWhile isNameRest)
    else none
  | [] => none

/-- Reads a name that may hold colons anywhere. -/
def readName? : Reader String := fun cs =>
  match cs with
  | c :: rest =>
    if isNameStart c || c = ':' then
      let part (d : Char) : Bool := isNameRest d || d = ':'
      some (String.ofList (c :: rest.takeWhile part), rest.dropWhile part)
    else none
  | [] => none

/-- Reads a row of name characters. -/
def readToken? : Reader String := fun cs =>
  let part (d : Char) : Bool := isNameRest d || d = ':'
  match cs.takeWhile part with
  | [] => none
  | ds => some (String.ofList ds, cs.dropWhile part)

/-- A name with a prefix before its colon, if it has one. -/
structure QName where
  space : Option String
  base : String
  deriving DecidableEq, Repr

/-- Reads a name with at most one colon, which stands inside it. -/
def QName.read? : Reader QName := fun cs => do
  let (first, rest) ← readPlainName? cs
  match rest with
  | ':' :: rest =>
    let (second, rest) ← readPlainName? rest
    if rest.head? = some ':' then none else pure (⟨some first, second⟩, rest)
  | _ => pure (⟨none, first⟩, rest)

/-- Reads up to a text that must come, and over it; only characters of documents may precede it. -/
def readUntil? (close : String) : Reader (List Char)
  | [] => none
  | c :: rest =>
    if startsWith close (c :: rest) then some ([], (c :: rest).drop close.length)
    else if isMarkupChar c then
      (readUntil? close rest).map fun (body, after) => (c :: body, after)
    else none

/-- Reads a literal between quotes of either kind. -/
def readLiteral? : Reader (List Char)
  | '"' :: rest => readUntil? "\"" rest
  | '\x27' :: rest => readUntil? "'" rest
  | _ => none

/-- Reads what follows the number sign of a reference to a character. -/
def readCharReference? (cs : List Char) : Option (Char × List Char) :=
  let (base, digits) := match cs with
    | 'x' :: rest => (16, rest)
    | _ => (10, cs)
  let isDigit (c : Char) : Bool :=
    c.isDigit || (base = 16 && (('a' ≤ c && c ≤ 'f') || ('A' ≤ c && c ≤ 'F')))
  match digits.takeWhile isDigit, digits.dropWhile isDigit with
  | [], _ => none
  | ds, ';' :: rest => do
    let n ← readDigits? base ds
    if 0x110000 ≤ n || (0xd800 ≤ n && n ≤ 0xdfff) then none
    else if isMarkupChar (Char.ofNat n) then some (Char.ofNat n, rest) else none
  | _, _ => none

/-- A reference to a character or to an entity. -/
inductive Reference where
  | char (c : Char)
  | entity (name : String)
  deriving DecidableEq, Repr

def readReference? (cs : List Char) : Option (Reference × List Char) :=
  match cs with
  | '#' :: rest => (readCharReference? rest).map fun (c, rest) => (.char c, rest)
  | _ => do
    let (name, rest) ← readName? cs
    pure (.entity name, ← expect? ";" rest)

/-- The entities that every document has. -/
def predefined? (name : String) : Option Char :=
  match name with
  | "lt" => some '<'
  | "gt" => some '>'
  | "amp" => some '&'
  | "quot" => some '"'
  | "apos" => some '\x27'
  | _ => none

/-! ## Parts without content -/

/-- What follows a comment whose opening has been read; two hyphens stand only at its end. -/
def skipComment? (cs : List Char) : Option (List Char) := do
  let (_, rest) ← readUntil? "--" cs
  expect? ">" rest

/-- What follows a processing instruction whose opening has been read.  Its target holds no colon
and is not the name that is reserved for the declaration of the document, in any case. -/
def skipInstruction? (cs : List Char) : Option (List Char) := do
  let (target, rest) ← readName? cs
  if target.map Char.toLower = "xml" || target.toList.contains ':' then none
  else
    match expect? "?>" rest with
    | some after => some after
    | none =>
      let rest ← expectBlanks? rest
      let (_, after) ← readUntil? "?>" rest
      pure after

/-- What follows blanks, comments and processing instructions. -/
def skipMisc? (fuel : Nat) (cs : List Char) : Option (List Char) :=
  match fuel with
  | 0 => none
  | fuel + 1 =>
    let cs := skipBlanks cs
    match expect? "<!--" cs with
    | some rest => (skipComment? rest).bind (skipMisc? fuel)
    | none =>
      match expect? "<?" cs with
      | some rest => (skipInstruction? rest).bind (skipMisc? fuel)
      | none => some cs

end StringCatalog.Markup
