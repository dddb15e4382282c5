import StringCatalog.Markup.Lexeme
import StringCatalog.OrderedMap

/-!
# StringCatalog.Markup.Entity

Entities that a document declares, and the values of attributes, in which
entities stand for plain text.  What entities expand to is counted, so that a
document cannot grow without bounds.
-/

namespace StringCatalog.Markup

/-- What an entity stands for: a text, something outside the document, or something that is no
text. -/
inductive EntityBody where
  | inner (replacement : List Char)
  | outer
  | unparsed
  deriving DecidableEq, Repr

/-- What a document declares about attributes. -/
structure AttributeRule where
  element : String
  name : String
  collapses : Bool
  value : Option (List Char)
  deriving Repr

/-- The declarations read so far.  When a part of them lies outside the document, entities may be
missing without fault. -/
structure Declarations where
  entities : OrderedMap String EntityBody
  parameters : OrderedMap String EntityBody
  rules : List AttributeRule
  incomplete : Bool
  standalone : Bool
  deriving Repr

namespace Declarations

def empty (standalone : Bool) : Declarations := ⟨[], [], [], false, standalone⟩

def toleratesMissing (d : Declarations) : Bool := d.incomplete && !d.standalone

end Declarations

/-- What entities may still expand to, in characters. -/
abbrev Budget := Nat

/-- What every reference costs beside the text that it stands for. -/
def referenceCost : Nat := 20

/-- The budget of a document: a million characters, or five times its length if that is more. -/
def Budget.ofLength (n : Nat) : Budget := max 1000000 (5 * n)

/-- Pays for some characters, if the budget allows it. -/
def Budget.spend? (b : Budget) (cost : Nat) : Option Budget :=
  if cost ≤ b then some (b - cost) else none

/-- Blank characters of a value are spaces. -/
def spaced (c : Char) : Char := if isBlank c then ' ' else c

/-- The text of an entity inside a value.  It holds no opening angle bracket and refers to no entity
that is being expanded; `fuel` bounds how deep entities nest. -/
def expandInValue (d : Declarations) (fuel : Nat) (cs : List Char) (budget : Budget) :
    Option (List Char × Budget) :=
  match cs with
  | [] => some ([], budget)
  | '<' :: _ => none
  | '&' :: rest =>
    match readReference? rest with
    | none => none
    | some (reference, after) =>
      if _h : after.length ≤ rest.length then do
        let (text, budget) ← match reference with
          | .char c => some ([c], budget)
          | .entity name =>
            match predefined? name with
            | some c => some ([c], budget)
            | none => do
              let budget ← budget.spend? referenceCost
              match d.entities.get? name with
              | some (.inner replacement) =>
                match fuel with
                | 0 => none
                | fuel + 1 => expandInValue d fuel replacement budget
              | some _ => none
              | none => if d.toleratesMissing then some ([], budget) else none
        let (more, budget) ← expandInValue d fuel after budget
        pure (text ++ more, budget)
      else none
  | c :: rest =>
    match budget.spend? 1 with
    | none => none
    | some budget => (expandInValue d fuel rest budget).map fun (more, b) => (c :: more, b)
termination_by (fuel, cs.length)

/-- The text of a value between its quotes: references are resolved, and blanks that are written as
such become spaces. -/
def resolveValue (d : Declarations) (cs : List Char) (budget : Budget) :
    Option (List Char × Budget) :=
  match cs with
  | [] => some ([], budget)
  | '<' :: _ => none
  | '&' :: rest =>
    match readReference? rest with
    | none => none
    | some (reference, after) =>
      if _h : after.length ≤ rest.length then do
        let (text, budget) ← match reference with
          | .char c => some ([c], budget)
          | .entity name =>
            match predefined? name with
            | some c => some ([c], budget)
            | none => do
              let budget ← budget.spend? referenceCost
              match d.entities.get? name with
              | some (.inner replacement) =>
                expandInValue d d.entities.length replacement budget
              | some _ => none
              | none => if d.toleratesMissing then some ([], budget) else none
        let (more, budget) ← resolveValue d after budget
        pure (text ++ more, budget)
      else none
  | c :: rest => (resolveValue d rest budget).map fun (more, b) => (spaced c :: more, b)
termination_by cs.length

/-- Reads the value of an attribute with its quotes. -/
def readValue? (d : Declarations) (cs : List Char) (budget : Budget) :
    Option (List Char × List Char × Budget) := do
  let (body, rest) ← readLiteral? cs
  let (value, budget) ← resolveValue d body budget
  pure (value, rest, budget)

/-- Removes spaces at both ends and leaves one of those in a row. -/
def collapseSpaces (cs : List Char) : List Char :=
  let rec go : List Char → List Char
    | ' ' :: ' ' :: rest => go (' ' :: rest)
    | [' '] => []
    | c :: rest => c :: go rest
    | [] => []
  go (cs.dropWhile (· = ' '))

end StringCatalog.Markup
