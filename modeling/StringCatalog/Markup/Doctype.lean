import StringCatalog.Markup.Entity

/-!
# StringCatalog.Markup.Doctype

The document type declaration: where the rest of it lies, and the declarations
inside the document.  Entities and attribute defaults are kept; element models
and notations are only checked for their form.
-/

namespace StringCatalog.Markup

/-- The literals that name something outside the document: whether there are any, and the last of
them.  `strict` asks for a system literal in every case. -/
def readExternalId? (strict : Bool) (cs : List Char) : Option (Option (List Char) × List Char) := do
  match expect? "SYSTEM" cs with
  | some rest =>
    let (name, rest) ← readLiteral? (← expectBlanks? rest)
    pure (some name, rest)
  | none =>
    match expect? "PUBLIC" cs with
    | none => pure (none, cs)
    | some rest =>
      let (publicId, rest) ← readLiteral? (← expectBlanks? rest)
      if !publicId.all isPublicIdChar then none
      else if strict then
        let (name, rest) ← readLiteral? (← expectBlanks? rest)
        pure (some name, rest)
      else
        match (expectBlanks? rest).bind readLiteral? with
        | some (name, rest) => pure (some name, rest)
        | none => pure (some publicId, rest)

/-! ## Entities -/

/-- The replacement text of an entity: references to characters are resolved, references to entities
are kept, and parameters do not occur in it. -/
def replacementText? (cs : List Char) : Option (List Char) :=
  match cs with
  | [] => some []
  | '%' :: _ => none
  | '&' :: rest =>
    match readReference? rest with
    | none => none
    | some (reference, after) =>
      if _h : after.length ≤ rest.length then do
        let more ← replacementText? after
        match reference with
        | .char c => pure (c :: more)
        | .entity name => pure ('&' :: name.toList ++ ';' :: more)
      else none
  | c :: rest => (replacementText? rest).map (c :: ·)
termination_by cs.length

/-- Adds an entity; the first declaration of a name counts, and a predefined one stays as it is. -/
def Declarations.addEntity (d : Declarations) (name : String) (body : EntityBody) : Declarations :=
  if (predefined? name).isSome || d.entities.has name then d
  else {d with entities := d.entities.put name body}

/-- Adds a parameter; the first declaration of a name counts. -/
def Declarations.addParameter (d : Declarations) (name : String) (body : EntityBody) :
    Declarations :=
  if d.parameters.has name then d else {d with parameters := d.parameters.put name body}

def readEntityBody? (isParameter : Bool) : Reader EntityBody := fun cs => do
  match cs with
  | '"' :: _ | '\x27' :: _ =>
    let (value, rest) ← readLiteral? cs
    pure (.inner (← replacementText? value), rest)
  | _ =>
    let (name?, rest) ← readExternalId? true cs
    let name ← name?
    if name.contains '#' then none
    else if isParameter || rest.head? = some '>' then pure (.outer, rest)
    else
      let rest ← expectBlanks? rest
      match expect? "NDATA" rest with
      | none => pure (.outer, rest)
      | some rest =>
        let (_, rest) ← readName? (← expectBlanks? rest)
        pure (.unparsed, rest)

def readNameWithoutColon? : Reader String := fun cs => do
  let (name, rest) ← readName? cs
  if name.toList.contains ':' then none else pure (name, rest)

/-- Reads what follows the keyword of the declaration of an entity. -/
def readEntityDeclaration? (d : Declarations) : Reader Declarations := fun cs => do
  let rest ← expectBlanks? cs
  let (isParameter, rest) ← match rest with
    | '%' :: rest => (expectBlanks? rest).map (true, ·)
    | _ => some (false, rest)
  let (name, rest) ← readNameWithoutColon? rest
  let (body, rest) ← readEntityBody? isParameter (← expectBlanks? rest)
  let rest ← expect? ">" (skipBlanks rest)
  if isParameter then pure (d.addParameter name body, rest)
  else pure (d.addEntity name body, rest)

/-! ## Attributes -/

/-- What follows a list of choices between parentheses, whose opening has been read. -/
def skipChoices? (read : Reader String) : (fuel : Nat) → List Char → Option (List Char)
  | 0, _ => none
  | fuel + 1, cs => do
    let (_, rest) ← read (skipBlanks cs)
    match skipBlanks rest with
    | '|' :: rest => skipChoices? read fuel rest
    | ')' :: rest => pure rest
    | _ => none

/-- The type names of attributes, longer ones before those that they start with. -/
def attributeTypes : List String :=
  ["CDATA", "IDREFS", "IDREF", "ID", "ENTITIES", "ENTITY", "NMTOKENS", "NMTOKEN"]

/-- Reads the type of an attribute: whether spaces collapse in its values. -/
def readAttributeType? : Reader Bool := fun cs =>
  match attributeTypes.find? (startsWith · cs) with
  | some name => some (name ≠ "CDATA", cs.drop name.length)
  | none => do
    match expect? "NOTATION" cs with
    | some rest =>
      let rest ← expect? "(" (← expectBlanks? rest)
      pure (true, ← skipChoices? readName? rest.length rest)
    | none =>
      let rest ← expect? "(" cs
      pure (true, ← skipChoices? readToken? rest.length rest)

/-- Reads what an attribute is by default. -/
def readDefault? (d : Declarations) (cs : List Char) (budget : Budget) :
    Option (Option (List Char) × List Char × Budget) :=
  match expect? "#REQUIRED" cs, expect? "#IMPLIED" cs, expect? "#FIXED" cs with
  | some rest, _, _ => some (none, rest, budget)
  | _, some rest, _ => some (none, rest, budget)
  | _, _, some rest => do
    let (value, rest, budget) ← readValue? d (← expectBlanks? rest) budget
    pure (some value, rest, budget)
  | _, _, _ => do
    let (value, rest, budget) ← readValue? d cs budget
    pure (some value, rest, budget)

/-- Adds a rule for an attribute; the first one of its name counts. -/
def Declarations.addRule (d : Declarations) (r : AttributeRule) : Declarations :=
  if d.rules.any fun q => q.element = r.element && q.name = r.name then d
  else {d with rules := d.rules ++ [r]}

/-- Reads the attributes of an element up to the end of their declaration. -/
def readRules? (element : String) : (fuel : Nat) → Declarations → List Char → Budget →
    Option (Declarations × List Char × Budget)
  | 0, _, _, _ => none
  | fuel + 1, d, cs, budget =>
    match cs with
    | '>' :: rest => some (d, rest, budget)
    | _ => do
      let (name, rest) ← readName? cs
      let (collapses, rest) ← readAttributeType? (← expectBlanks? rest)
      let (value, rest, budget) ← readDefault? d (← expectBlanks? rest) budget
      let value := if collapses then value.map collapseSpaces else value
      let d := d.addRule { element, name, collapses, value }
      match rest with
      | '>' :: _ => readRules? element fuel d rest budget
      | _ => readRules? element fuel d (← expectBlanks? rest) budget

/-- Reads what follows the keyword of a declaration of attributes. -/
def readAttributeDeclaration? (d : Declarations) (cs : List Char) (budget : Budget) :
    Option (Declarations × List Char × Budget) := do
  let (element, rest) ← readName? (← expectBlanks? cs)
  readRules? element rest.length d (skipBlanks rest) budget

/-! ## Element models -/

/-- What follows a mark of repetition, if there is one. -/
def skipRepetition : List Char → List Char
  | '?' :: rest | '*' :: rest | '+' :: rest => rest
  | cs => cs

mutual

/-- What follows one particle of a model. -/
def skipParticle? : (fuel : Nat) → List Char → Option (List Char)
  | 0, _ => none
  | fuel + 1, cs =>
    match cs with
    | '(' :: rest => do
      let rest ← skipParticle? fuel (skipBlanks rest)
      skipParticles? fuel none (skipBlanks rest)
    | _ => (readName? cs).map fun (_, rest) => skipRepetition rest

/-- What follows the further particles of a group, all behind the same separator. -/
def skipParticles? : (fuel : Nat) → Option Char → List Char → Option (List Char)
  | 0, _, _ => none
  | fuel + 1, separator, cs =>
    match cs with
    | ')' :: rest => some (skipRepetition rest)
    | c :: rest =>
      if (c = ',' || c = '|') && (separator.isNone || separator = some c) then do
        let rest ← skipParticle? fuel (skipBlanks rest)
        skipParticles? fuel (some c) (skipBlanks rest)
      else none
    | [] => none

end

/-- What follows the names of a mixed model behind its first word. -/
def skipMixed? : (fuel : Nat) → (any : Bool) → List Char → Option (List Char)
  | 0, _, _ => none
  | fuel + 1, any, cs =>
    match skipBlanks cs with
    | '|' :: rest => do
      let (_, rest) ← readName? (skipBlanks rest)
      skipMixed? fuel true rest
    | ')' :: '*' :: rest => some rest
    | ')' :: rest => if any then none else some rest
    | _ => none

/-- What follows the model of an element. -/
def skipModel? (cs : List Char) : Option (List Char) :=
  match expect? "EMPTY" cs, expect? "ANY" cs, cs with
  | some rest, _, _ => some rest
  | _, some rest, _ => some rest
  | _, _, '(' :: inner =>
    match expect? "#PCDATA" (skipBlanks inner) with
    | some rest => skipMixed? (rest.length + 1) false rest
    | none => skipParticle? (cs.length + 1) cs
  | _, _, _ => none

/-- What follows the declaration of an element, whose keyword has been read. -/
def skipElementDeclaration? (cs : List Char) : Option (List Char) := do
  let (_, rest) ← readName? (← expectBlanks? cs)
  expect? ">" (skipBlanks (← skipModel? (← expectBlanks? rest)))

/-- What follows the declaration of a notation, whose keyword has been read. -/
def skipNotationDeclaration? (cs : List Char) : Option (List Char) := do
  let (_, rest) ← readNameWithoutColon? (← expectBlanks? cs)
  let (_, rest) ← readExternalId? false (← expectBlanks? rest)
  expect? ">" (skipBlanks rest)

/-! ## The declaration as a whole -/

/-- Reads one declaration. -/
def readDeclaration? (d : Declarations) (cs : List Char) (budget : Budget) :
    Option (Declarations × List Char × Budget) :=
  match expect? "<!ENTITY" cs, expect? "<!ATTLIST" cs, expect? "<!ELEMENT" cs,
    expect? "<!NOTATION" cs, expect? "<!--" cs, expect? "<?" cs with
  | some rest, _, _, _, _, _ => (readEntityDeclaration? d rest).map fun (d, rest) => (d, rest, budget)
  | _, some rest, _, _, _, _ => readAttributeDeclaration? d rest budget
  | _, _, some rest, _, _, _ => (skipElementDeclaration? rest).map (d, ·, budget)
  | _, _, _, some rest, _, _ => (skipNotationDeclaration? rest).map (d, ·, budget)
  | _, _, _, _, some rest, _ => (skipComment? rest).map (d, ·, budget)
  | _, _, _, _, _, some rest => (skipInstruction? rest).map (d, ·, budget)
  | _, _, _, _, _, _ => none

/-- Reads declarations and references to parameters up to something else.  The replacement text of a
parameter holds whole declarations; `expanding` holds the parameters around, which it must not refer
to. -/
def readDeclarations? : (fuel : Nat) → (expanding : List String) → Declarations → List Char →
    Budget → Option (Declarations × List Char × Budget)
  | 0, _, _, _, _ => none
  | fuel + 1, expanding, d, cs, budget =>
    match skipBlanks cs with
    | '%' :: rest => do
      let (name, rest) ← readName? rest
      let rest ← expect? ";" rest
      let d := {d with incomplete := true}
      let budget ← budget.spend? referenceCost
      match d.parameters.get? name with
      | none => if d.standalone then none else readDeclarations? fuel expanding d rest budget
      | some (.inner replacement) =>
        if expanding.contains name then none
        else
          let budget ← budget.spend? replacement.length
          let (d, left, budget) ←
            readDeclarations? fuel (name :: expanding) d replacement budget
          if left.isEmpty then readDeclarations? fuel expanding d rest budget else none
      | some _ => readDeclarations? fuel expanding d rest budget
    | '<' :: rest => do
      let (d, rest, budget) ← readDeclaration? d ('<' :: rest) budget
      readDeclarations? fuel expanding d rest budget
    | rest => some (d, rest, budget)

/-- Reads the declaration of the document type behind its keyword. -/
def readDoctype? (d : Declarations) (cs : List Char) (budget : Budget) :
    Option (Declarations × List Char × Budget) := do
  let (_, rest) ← readName? (← expectBlanks? cs)
  let (outside, rest) ← readExternalId? true (skipBlanks rest)
  let d := {d with incomplete := outside.isSome}
  match skipBlanks rest with
  | '[' :: rest =>
    let (d, rest, budget) ← readDeclarations? (2 * rest.length + 2) [] d rest budget
    let rest ← expect? "]" rest
    pure (d, ← expect? ">" (skipBlanks rest), budget)
  | rest => pure (d, ← expect? ">" rest, budget)

end StringCatalog.Markup
