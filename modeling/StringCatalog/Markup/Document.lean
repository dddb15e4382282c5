import StringCatalog.Markup.Content
import StringCatalog.Markup.Encoding

/-!
# StringCatalog.Markup.Document

Documents from their bytes: the declaration of version and encoding, the
document type, and the one element that holds everything else.
-/

namespace StringCatalog.Markup

/-- What the declaration of a document says. -/
structure Heading where
  encoding : Option String
  standalone : Bool
  deriving Repr

/-- Reads the value of one part of the declaration. -/
def readHeadingValue? (keyword : String) (cs : List Char) : Option (List Char × List Char) := do
  let rest ← expect? "=" (skipBlanks (← expect? keyword cs))
  readLiteral? (skipBlanks rest)

/-- Whether characters are a version that can be read: the first major one. -/
def isVersion : List Char → Bool
  | '1' :: '.' :: rest => rest.all Char.isDigit
  | _ => false

def isEncodingName : List Char → Bool
  | c :: rest => c.isAlpha && rest.all fun d => d.isAlphanum || ['.', '_', '-'].contains d
  | [] => false

/-- Reads a part that may be missing, but must stand behind blanks. -/
def readOptional? (keyword : String) (cs : List Char) : Option (Option (List Char) × List Char) :=
  let rest := skipBlanks cs
  if startsWith keyword rest then
    if rest.length = cs.length then none
    else (readHeadingValue? keyword rest).map fun (value, rest) => (some value, rest)
  else some (none, cs)

/-- Reads the declaration of a document, if it has one. -/
def readHeading? (cs : List Char) : Option (Heading × List Char) :=
  match expect? "<?xml" cs with
  | some (c :: rest) =>
    if isBlank c then do
      let (version, rest) ← readHeadingValue? "version" (skipBlanks rest)
      if !isVersion version then none
      else
        let (encoding, rest) ← readOptional? "encoding" rest
        let (standalone, rest) ← readOptional? "standalone" rest
        let rest ← expect? "?>" (skipBlanks rest)
        if encoding.any (!isEncodingName ·) then none
        else
          match standalone.map String.ofList with
          | none | some "no" => pure (⟨encoding.map String.ofList, false⟩, rest)
          | some "yes" => pure (⟨encoding.map String.ofList, true⟩, rest)
          | _ => none
    else some (⟨none, false⟩, cs)
  | _ => some (⟨none, false⟩, cs)

def readDocument? (cs : List Char) : Option Element := do
  let (heading, rest) ← readHeading? cs
  let declarations := Declarations.empty heading.standalone
  let budget := Budget.ofLength cs.length
  let fuel := 2 * cs.length + 2
  let rest ← skipMisc? fuel rest
  let (declarations, rest, budget) ← match expect? "<!DOCTYPE" rest with
    | some rest => do
      let (d, rest, budget) ← readDoctype? declarations rest budget
      pure (d, ← skipMisc? fuel rest, budget)
    | none => some (declarations, rest, budget)
  let rest ← expect? "<" rest
  let (root, _, rest) ←
    readElement? declarations fuel Scope.outermost [] ⟨[], budget⟩ rest
  let rest ← skipMisc? fuel rest
  if rest.isEmpty then pure root else none

/-- The encoding of a document without byte order mark: the declared one, or else UTF-8; the
declaration itself is ASCII. -/
def declaredEncoding? (bytes : List UInt8) : Option Encoding :=
  match readHeading? (Encoding.latin1.decode bytes).unified.chars with
  | some (⟨some name, _⟩, _) => Encoding.named? name
  | _ => some .utf8

/-- Why there is no document in bytes. -/
inductive DocumentError where
  | malformed
  | damaged
  deriving DecidableEq, Repr

/-- Reads a document.  Bytes that the encoding does not know matter only when nothing else is
wrong. -/
def readBytes (bytes : List UInt8) : Except DocumentError Element :=
  let (detected, rest) := detect bytes
  match detected.or (declaredEncoding? bytes) with
  | none => .error .malformed
  | some e =>
    let d := (e.decode rest).unified
    match readDocument? d.chars with
    | none => .error .malformed
    | some root => if d.damaged then .error .damaged else .ok root

end StringCatalog.Markup
