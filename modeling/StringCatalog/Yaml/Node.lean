import StringCatalog.OrderedMap
import StringCatalog.Yaml.Token

/-!
# StringCatalog.Yaml.Node

The nodes that tokens make up: scalars, sequences and mappings, each with the
tag that it is marked with or that its form gives it.  An alias is the node
that its anchor marks.
-/

namespace StringCatalog.Yaml

/-- What a node is marked as: by an explicit tag, as a plain scalar, or not at all. -/
inductive Mark where
  | tagged (tag : String)
  | plain
  | bare
  deriving DecidableEq, Repr

inductive Node where
  | scalar (mark : Mark) (text : String)
  | sequence (mark : Mark) (items : List Node)
  | mapping (mark : Mark) (entries : List (Node × Node))
  deriving Repr

namespace Node

/-- An empty scalar, which stands where a node is missing. -/
def missing : Node := .scalar .plain ""

end Node

/-- The namespaces that handles of tags stand for. -/
abbrev Handles := OrderedMap String String

/-- The namespace of the tags that every text knows. -/
def coreNamespace : String := "tag:yaml.org,2002:"

/-- The handles that a document has without declaring them. -/
def defaultHandles : Handles := [("!", "!"), ("!!", coreNamespace)]

/-- What is left of the tokens, and the nodes that are marked so far. -/
structure Reading where
  rest : List Token
  anchors : OrderedMap String Node

/-- A node and what is left after it. -/
abbrev NodeResult := Result (Node × Reading)

namespace Reading

def head? (r : Reading) : Option Token := r.rest.head?

def next (r : Reading) : Reading := {r with rest := r.rest.tail}

/-- Whether a token of a list is the one here. -/
def stands (r : Reading) (ts : List Token) : Bool :=
  match r.head? with
  | some t => ts.contains t
  | none => false

def anchor? (r : Reading) : Option String × Reading :=
  match r.head? with
  | some (.anchor name) => (some name, r.next)
  | _ => (none, r)

def tag? (r : Reading) : Option WrittenTag × Reading :=
  match r.head? with
  | some (.tag t) => (some t, r.next)
  | _ => (none, r)

/-- Reads an anchor and a tag in either order. -/
def properties (r : Reading) : Option String × Option WrittenTag × Reading :=
  match r.anchor? with
  | (some name, r) =>
    let (t, r) := r.tag?
    (some name, t, r)
  | (none, r) =>
    let (t, r) := r.tag?
    let (name, r) := if t.isSome then r.anchor? else (none, r)
    (name, t, r)

/-- Marks a node; no anchor marks two. -/
def marked (r : Reading) (name : Option String) (n : Node) : NodeResult :=
  match name with
  | none => .ok (n, r)
  | some name =>
    if r.anchors.has name then malformed else .ok (n, {r with anchors := r.anchors.put name n})

end Reading

def WrittenTag.resolve (t : WrittenTag) (handles : Handles) : Result String :=
  match t.handle with
  | none => .ok t.suffix
  | some h =>
    match handles.get? h with
    | some expansion => .ok (expansion ++ t.suffix)
    | none => malformed

/-- The mark that a full tag gives a collection. -/
def collectionMark : Option String → Mark
  | none | some "!" => .bare
  | some t => .tagged t

/-- The mark that a full tag gives a scalar; a lone exclamation mark makes it a plain one. -/
def scalarMark (isPlain : Bool) : Option String → Mark
  | none => if isPlain then .plain else .bare
  | some "!" => .plain
  | some t => .tagged t

mutual

/-- Reads a node.  Block collections are read where `inBlock` says so, and a block sequence without
indentation where `indentless` does. -/
def readNode (handles : Handles) : (fuel : Nat) → (inBlock indentless : Bool) → Reading → NodeResult
  | 0, _, _, _ => malformed
  | fuel + 1, inBlock, indentless, r =>
    match r.head? with
    | some (.alias name) =>
      match r.anchors.get? name with
      | some n => .ok (n, r.next)
      | none => malformed
    | _ => do
      let (anchor, written, r) := r.properties
      let tag ← match written with
        | none => .ok none
        | some t => (t.resolve handles).map some
      if anchor.any fun name => r.anchors.has name then malformed
      else
        let sequence (items : List Node) (r : Reading) : NodeResult :=
          r.marked anchor (.sequence (collectionMark tag) items)
        let mapping (entries : List (Node × Node)) (r : Reading) : NodeResult :=
          r.marked anchor (.mapping (collectionMark tag) entries)
        match r.head? with
        | some .blockEntry =>
          if indentless then do
            let (items, r) ← readIndentless handles fuel r
            sequence items r
          else if anchor.isSome || tag.isSome then
            r.marked anchor (.scalar (scalarMark true tag) "")
          else malformed
        | some (.scalar text isPlain) => r.next.marked anchor (.scalar (scalarMark isPlain tag) text)
        | some .flowSequenceStart => do
          let (items, r) ← readFlowItems handles fuel true r.next
          sequence items r
        | some .flowMappingStart => do
          let (entries, r) ← readFlowEntries handles fuel true r.next
          mapping entries r
        | t =>
          if inBlock && t = some .blockSequenceStart then do
            let (items, r) ← readBlockItems handles fuel r.next
            sequence items r
          else if inBlock && t = some .blockMappingStart then do
            let (entries, r) ← readBlockEntries handles fuel r.next
            mapping entries r
          else if anchor.isSome || tag.isSome then
            r.marked anchor (.scalar (scalarMark true tag) "")
          else malformed

/-- Reads a node, unless a token that may follow a missing one stands here. -/
def readNodeUnless (handles : Handles) : (fuel : Nat) → (inBlock indentless : Bool) →
    (stops : List Token) → Reading → NodeResult
  | 0, _, _, _, _ => malformed
  | fuel + 1, inBlock, indentless, stops, r =>
    if r.stands stops then .ok (.missing, r) else readNode handles fuel inBlock indentless r

/-- Reads the items of a block sequence and over its end. -/
def readBlockItems (handles : Handles) : (fuel : Nat) → Reading → Result (List Node × Reading)
  | 0, _ => malformed
  | fuel + 1, r =>
    match r.head? with
    | some .blockEntry => do
      let (n, r) ← readNodeUnless handles fuel true false [.blockEntry, .blockEnd] r.next
      let (ns, r) ← readBlockItems handles fuel r
      .ok (n :: ns, r)
    | some .blockEnd => .ok ([], r.next)
    | _ => malformed

/-- Reads the items of a sequence without indentation. -/
def readIndentless (handles : Handles) : (fuel : Nat) → Reading → Result (List Node × Reading)
  | 0, _ => malformed
  | fuel + 1, r =>
    match r.head? with
    | some .blockEntry => do
      let (n, r) ←
        readNodeUnless handles fuel true false [.blockEntry, .key, .value, .blockEnd] r.next
      let (ns, r) ← readIndentless handles fuel r
      .ok (n :: ns, r)
    | _ => .ok ([], r)

/-- Reads the value of an entry, if its mark stands here. -/
def readValue (handles : Handles) : (fuel : Nat) → (inBlock : Bool) → (stops : List Token) →
    Reading → NodeResult
  | 0, _, _, _ => malformed
  | fuel + 1, inBlock, stops, r =>
    if r.stands [.value] then readNodeUnless handles fuel inBlock inBlock stops r.next
    else .ok (.missing, r)

/-- Reads the entries of a block mapping and over its end. -/
def readBlockEntries (handles : Handles) : (fuel : Nat) → Reading →
    Result (List (Node × Node) × Reading)
  | 0, _ => malformed
  | fuel + 1, r =>
    match r.head? with
    | some .key => do
      let stops := [.key, .value, .blockEnd]
      let (k, r) ← readNodeUnless handles fuel true true stops r.next
      let (v, r) ← readValue handles fuel true stops r
      let (es, r) ← readBlockEntries handles fuel r
      .ok ((k, v) :: es, r)
    | some .blockEnd => .ok ([], r.next)
    | _ => malformed

/-- Reads the items of a flow sequence and over its end; an item with a key is a mapping. -/
def readFlowItems (handles : Handles) : (fuel : Nat) → (isFirst : Bool) → Reading →
    Result (List Node × Reading)
  | 0, _, _ => malformed
  | fuel + 1, isFirst, r =>
    if r.stands [.flowSequenceEnd] then .ok ([], r.next)
    else if !isFirst && !r.stands [.flowEntry] then malformed
    else
      let r := if isFirst then r else r.next
      if r.stands [.key] then do
        let (k, r) ← readNodeUnless handles fuel false false
          [.value, .flowEntry, .flowSequenceEnd] r.next
        let (v, r) ← readValue handles fuel false [.flowEntry, .flowSequenceEnd] r
        let (ns, r) ← readFlowItems handles fuel false r
        .ok (.mapping .bare [(k, v)] :: ns, r)
      else if r.stands [.flowSequenceEnd] then .ok ([], r.next)
      else do
        let (n, r) ← readNode handles fuel false false r
        let (ns, r) ← readFlowItems handles fuel false r
        .ok (n :: ns, r)

/-- Reads the entries of a flow mapping and over its end. -/
def readFlowEntries (handles : Handles) : (fuel : Nat) → (isFirst : Bool) → Reading →
    Result (List (Node × Node) × Reading)
  | 0, _, _ => malformed
  | fuel + 1, isFirst, r =>
    if r.stands [.flowMappingEnd] then .ok ([], r.next)
    else if !isFirst && !r.stands [.flowEntry] then malformed
    else
      let r := if isFirst then r else r.next
      if r.stands [.key] then do
        let (k, r) ← readNodeUnless handles fuel false false
          [.value, .flowEntry, .flowMappingEnd] r.next
        let (v, r) ← readValue handles fuel false [.flowEntry, .flowMappingEnd] r
        let (es, r) ← readFlowEntries handles fuel false r
        .ok ((k, v) :: es, r)
      else if r.stands [.flowMappingEnd] then .ok ([], r.next)
      else do
        let (k, r) ← readNode handles fuel false false r
        let (es, r) ← readFlowEntries handles fuel false r
        .ok ((k, .missing) :: es, r)

end

/-! ## Documents -/

/-- Reads directives: the handles that they declare.  There is one version at most, of the first
major number, and no handle is declared twice. -/
def readDirectives : (hasVersion : Bool) → Handles → List Token → Result (Handles × List Token)
  | hasVersion, handles, .version major :: rest =>
    if hasVersion || major ≠ 1 then malformed else readDirectives true handles rest
  | hasVersion, handles, .tagHandle handle expansion :: rest =>
    if handles.has handle then malformed
    else readDirectives hasVersion (handles.put handle expansion) rest
  | hasVersion, handles, .directive :: rest => readDirectives hasVersion handles rest
  | _, handles, rest => .ok (handles, rest)

def Token.isDirective : Token → Bool
  | .version _ | .tagHandle .. | .directive => true
  | _ => false

/-- Declared handles with the default ones that are not declared. -/
def withDefaultHandles (handles : Handles) : Handles :=
  handles ++ defaultHandles.filter fun e => !handles.has e.1

/-- Whether a document without content may stand before these tokens. -/
def startsNoNode : List Token → Bool
  | [] => true
  | t :: _ => t.isDirective || t = .documentStart || t = .documentEnd

/-- The node of a document that nothing follows but ends of documents. -/
def readEnd : Node × Reading → Result Node
  | (n, r) => if (r.rest.dropWhile (· = Token.documentEnd)).isEmpty then .ok n else malformed

/-- Reads the one document that tokens make up, if there is one. -/
def readDocument (ts : List Token) : Result (Option Node) :=
  let fuel := 4 * ts.length + 4
  match ts with
  | [] => .ok none
  | t :: _ =>
    if t.isDirective || t = .documentStart then do
      let (handles, ts) ← readDirectives false [] ts
      match ts with
      | .documentStart :: ts =>
        if startsNoNode ts then .ok (some (← readEnd (.missing, ⟨ts, []⟩)))
        else .ok (some (← readEnd (← readNode (withDefaultHandles handles) fuel true false ⟨ts, []⟩)))
      | _ => malformed
    else do .ok (some (← readEnd (← readNode defaultHandles fuel true false ⟨ts, []⟩)))

end StringCatalog.Yaml
