import StringCatalog.Markup.Doctype
import StringCatalog.Markup.Namespace

/-!
# StringCatalog.Markup.Content

Elements and what stands between their tags.  An entity is read when it is
first referred to: its replacement text must be well-formed by itself, without
the prefixes declared around that place, and what it was read as stands for it
from then on.
-/

namespace StringCatalog.Markup

/-- The entities read so far, with what each costs, and the budget that is left. -/
structure Progress where
  expansions : OrderedMap String (List Node × Nat)
  budget : Budget

/-! ## Tags -/

/-- A start tag as it is written. -/
structure StartTag where
  name : QName
  attributes : List (QName × String)
  isEmpty : Bool

/-- Whether values of an attribute collapse. -/
def Declarations.collapses (d : Declarations) (element : String) (name : String) : Bool :=
  d.rules.any fun r => r.element = element && r.name = name && r.collapses

def QName.text (q : QName) : String :=
  match q.space with
  | some p => p ++ ":" ++ q.base
  | none => q.base

/-- Reads attributes up to the end of their tag, and whether that is an empty one. -/
def readAttributes? (d : Declarations) (element : String) : (fuel : Nat) → List Char → Budget →
    Option (List (QName × String) × Bool × List Char × Budget)
  | 0, _, _ => none
  | fuel + 1, cs, budget =>
    match skipBlanks cs with
    | '>' :: rest => some ([], false, rest, budget)
    | '/' :: '>' :: rest => some ([], true, rest, budget)
    | start => do
      if start.length = cs.length then none
      else
        let (q, rest) ← QName.read? start
        let rest ← expect? "=" (skipBlanks rest)
        let (value, rest, budget) ← readValue? d (skipBlanks rest) budget
        let value := if d.collapses element q.text then collapseSpaces value else value
        let (more, isEmpty, rest, budget) ← readAttributes? d element fuel rest budget
        pure ((q, String.ofList value) :: more, isEmpty, rest, budget)

/-- The declared name of an attribute, if it is one that could be written. -/
def QName.ofText? (s : String) : Option QName :=
  match QName.read? s.toList with
  | some (q, []) => some q
  | _ => none

/-- Attributes with the defaults of those that are missing. -/
def Declarations.withDefaults (d : Declarations) (element : String)
    (attributes : List (QName × String)) : List (QName × String) :=
  attributes ++ d.rules.filterMap fun r =>
    if r.element = element && !attributes.any (fun a => a.1.text = r.name) then
      match r.value, QName.ofText? r.name with
      | some value, some q => some (q, String.ofList value)
      | _, _ => none
    else none

def readStartTag? (d : Declarations) (cs : List Char) (budget : Budget) :
    Option (StartTag × List Char × Budget) := do
  let (name, rest) ← QName.read? cs
  let (attributes, isEmpty, rest, budget) ← readAttributes? d name.text (rest.length + 1) rest budget
  if allDistinct (attributes.map (·.1)) then
    pure (⟨name, d.withDefaults name.text attributes, isEmpty⟩, rest, budget)
  else none

/-- Reads the end tag of a name behind its angle bracket and slash. -/
def readEndTag? (name : QName) (cs : List Char) : Option (List Char) := do
  expect? ">" (skipBlanks (← expect? name.text cs))

/-! ## Content -/

/-- Reads text up to an angle bracket or an ampersand; the end of a section of raw text does not
occur in it. -/
def readText? : List Char → Option (List Char × List Char)
  | [] => some ([], [])
  | '<' :: rest => some ([], '<' :: rest)
  | '&' :: rest => some ([], '&' :: rest)
  | ']' :: ']' :: '>' :: _ => none
  | c :: rest =>
    if isMarkupChar c then (readText? rest).map fun (body, after) => (c :: body, after) else none

mutual

/-- Reads nodes up to an end tag or the end of the text.  `expanding` holds the entities around. -/
def readNodes? (d : Declarations) : (fuel : Nat) → Scope → (expanding : List String) → Progress →
    List Char → (before : List Node) → Option (List Node × Progress × List Char)
  | 0, _, _, _, _, _ => none
  | fuel + 1, scope, expanding, p, cs, before =>
    match cs with
    | [] => some (before.reverse, p, [])
    | '<' :: '/' :: rest => some (before.reverse, p, '<' :: '/' :: rest)
    | '<' :: rest =>
      match expect? "!--" rest, expect? "![CDATA[" rest, expect? "?" rest with
      | some rest, _, _ => do
        readNodes? d fuel scope expanding p (← skipComment? rest) before
      | _, some rest, _ => do
        let (body, rest) ← readUntil? "]]>" rest
        readNodes? d fuel scope expanding p rest (.text (String.ofList body) :: before)
      | _, _, some rest => do
        readNodes? d fuel scope expanding p (← skipInstruction? rest) before
      | _, _, _ => do
        let (e, p, rest) ← readElement? d fuel scope expanding p rest
        readNodes? d fuel scope expanding p rest (.element e.name e.attributes e.children :: before)
    | '&' :: rest => do
      let (reference, rest) ← readReference? rest
      let (node, p) ← match reference with
        | .char c => some (.text (String.singleton c), p)
        | .entity name =>
          match predefined? name with
          | some c => some (.text (String.singleton c), p)
          | none => expand? d fuel expanding p name
      readNodes? d fuel scope expanding p rest (node :: before)
    | _ => do
      let (body, rest) ← readText? cs
      readNodes? d fuel scope expanding p rest (.text (String.ofList body) :: before)

/-- Reads an element behind the angle bracket of its start tag. -/
def readElement? (d : Declarations) : (fuel : Nat) → Scope → (expanding : List String) → Progress →
    List Char → Option (Element × Progress × List Char)
  | 0, _, _, _, _ => none
  | fuel + 1, scope, expanding, p, cs => do
    let (tag, rest, budget) ← readStartTag? d cs p.budget
    let p := {p with budget}
    let scope ← scope.enter? tag.attributes
    let name ← scope.elementName? tag.name
    let attributes ← scope.attributes? tag.attributes
    if tag.isEmpty then pure (⟨name, attributes, []⟩, p, rest)
    else
      let (children, p, rest) ← readNodes? d fuel scope expanding p rest []
      pure (⟨name, attributes, children⟩, p, ← readEndTag? tag.name (← expect? "</" rest))

/-- What an entity stands for.  One that lies outside the document, or may do so, stands for
nothing. -/
def expand? (d : Declarations) : (fuel : Nat) → (expanding : List String) → Progress →
    (name : String) → Option (Node × Progress)
  | 0, _, _, _ => none
  | fuel + 1, expanding, p, name =>
    if expanding.contains name then none
    else
      match p.expansions.get? name with
      | some (nodes, cost) => do
        let budget ← p.budget.spend? (cost + referenceCost)
        pure (.expansion nodes, {p with budget})
      | none =>
        match d.entities.get? name with
        | none => if d.toleratesMissing then some (.expansion [], p) else none
        | some .unparsed => none
        | some .outer => some (.expansion [], p)
        | some (.inner replacement) => do
          let budget ← p.budget.spend? (replacement.length + referenceCost)
          let (nodes, q, rest) ←
            readNodes? d fuel Scope.outermost (name :: expanding) {p with budget} replacement []
          if rest.isEmpty then
            let cost := p.budget - q.budget
            pure (.expansion nodes, {q with expansions := q.expansions.put name (nodes, cost)})
          else none

end

end StringCatalog.Markup
