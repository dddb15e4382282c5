import StringCatalog.Yaml.Kind

/-!
# StringCatalog.Yaml.Load

The value of a configuration text.  Collections are filled level by level, so
that of several faults the one nearest to the root is reported, and of those at
one level the first.

Entries of a mapping under the merge key stand before its own entries, so that
its own ones win.  A mapping that is marked as a scalar is the scalar under its
default key.
-/

namespace StringCatalog.Yaml

/-- What a node is before its kind is looked at. -/
inductive Shape (α : Type) where
  | scalar
  | sequence (items : List α)
  | mapping (entries : List (α × α)) (isMerged : Bool)

/-- A node with its value and the faults in it, each with its distance from the node, and its text
if it can be read as a scalar.  The entries of a mapping hold the merged ones; merging may have
failed. -/
inductive Loaded where
  | mk (kind : Kind) (shape : Shape Loaded) (text : Option String) (value : Value)
    (faults : List (Nat × Error))

namespace Loaded

def kind : Loaded → Kind
  | .mk k _ _ _ _ => k

def shape : Loaded → Shape Loaded
  | .mk _ s _ _ _ => s

/-- The text of a node, if it can be read as a scalar. -/
def text : Loaded → Option String
  | .mk _ _ t _ _ => t

def value : Loaded → Value
  | .mk _ _ _ v _ => v

/-- The faults in a node. -/
def faults : Loaded → List (Nat × Error)
  | .mk _ _ _ _ fs => fs

/-- The faults in a part, one level further down. -/
def deeper (l : Loaded) : List (Nat × Error) := l.faults.map fun f => (f.1 + 1, f.2)

def faulty (kind : Kind) (shape : Shape Loaded) (text : Option String) (level : Nat) : Loaded :=
  .mk kind shape text .null [(level, .malformed)]

/-- A node of a form that is read as the scalar of a kind. -/
def asScalar (kind : Kind) (shape : Shape Loaded) (s : String) : Loaded :=
  match scalarValue kind s with
  | .ok v => .mk kind shape (some s) v []
  | .error e => .mk kind shape (some s) .null [(0, e)]

def ofScalar (kind : Kind) (s : String) : Loaded := asScalar kind .scalar s

/-- The one entry of an item of an ordered map, as a pair with its faults. -/
def pairOf (item : Loaded) : Value × List (Nat × Error) :=
  match item.shape with
  | .mapping [(k, v)] _ => (.tuple [k.value, v.value], k.deeper ++ v.deeper)
  | _ => (.null, [(1, .malformed)])

def ofSequence (kind : Kind) (items : List Loaded) : Loaded :=
  let shape := Shape.sequence items
  match kind with
  | .sequence => .mk kind shape none (.list (items.map value)) (items.flatMap deeper)
  | .orderedMap | .pairs =>
    let pairs := items.map pairOf
    .mk kind shape none (.list (pairs.map (·.1))) (pairs.flatMap (·.2))
  | _ => faulty kind shape none 0

/-- The faults in an entry of a mapping; the key must be one that can be told from others. -/
def entryFaults (e : Loaded × Loaded) : List (Nat × Error) :=
  e.1.deeper ++ (if e.1.value.unhashable?.isSome then [(1, .malformed)] else []) ++ e.2.deeper

/-- The entries that the value of a merge key brings in: those of a mapping, or of the mappings in a
sequence, the last one first. -/
def mergedEntries (v : Loaded) : Option (List (Loaded × Loaded)) :=
  let entriesOf (l : Loaded) : Option (List (Loaded × Loaded)) :=
    match l.shape with
    | .mapping entries true => some entries
    | _ => none
  match v.shape with
  | .sequence items => (items.mapM entriesOf).map fun ls => ls.reverse.flatten
  | _ => entriesOf v

/-- A key that marks a default value is a text. -/
def asKey (k : Loaded) : Loaded :=
  match k.kind, k.text with
  | .default, some s => ofScalar .text s
  | _, _ => k

/-- The text of a mapping: that of its first default value. -/
def defaultText (entries : List (Loaded × Loaded)) : Option String :=
  (entries.find? fun e => e.1.kind = .default).bind fun e => e.2.text

/-- Whether a mapping can be read as the scalar of a kind. -/
def readsDefault (kind : Kind) : Bool :=
  [Kind.null, .bool, .int, .float, .binary, .text].contains kind

def ofMapping (kind : Kind) (entries : List (Loaded × Loaded)) : Loaded :=
  let own := (entries.filter fun e => e.1.kind ≠ .merge).map fun e => (e.1.asKey, e.2)
  let merged := (entries.filter fun e => e.1.kind = .merge).mapM fun e => mergedEntries e.2
  let isMap := kind = .mapping || kind = .set
  let text := defaultText entries
  match merged with
  | none => faulty kind (.mapping own false) text (if isMap then 1 else 0)
  | some merged =>
    let all := merged.flatten ++ own
    let shape := Shape.mapping all true
    let found := all.flatMap entryFaults
    let values : OrderedMap Value Value :=
      OrderedMap.ofList (all.map fun e => (e.1.value, e.2.value))
    match kind, text with
    | .mapping, _ => .mk kind shape text (.map values) found
    | .set, _ => .mk kind shape text (.set values.keys) found
    | _, some s => if readsDefault kind then asScalar kind shape s else faulty kind shape text 0
    | _, none => faulty kind shape text 0

end Loaded

/-- The kind that a mark gives a node of a form. -/
def Mark.kind (m : Mark) (bare : Kind) (plain : Kind) : Kind :=
  match m with
  | .tagged t => kindOfTag t
  | .plain => plain
  | .bare => bare

mutual

def Node.load : Node → Loaded
  | .scalar m s => Loaded.ofScalar (m.kind .text (plainKind s)) s
  | .sequence m items => Loaded.ofSequence (m.kind .sequence .sequence) (loadItems items)
  | .mapping m entries => Loaded.ofMapping (m.kind .mapping .mapping) (loadEntries entries)

def loadItems : List Node → List Loaded
  | [] => []
  | n :: ns => n.load :: loadItems ns

def loadEntries : List (Node × Node) → List (Loaded × Loaded)
  | [] => []
  | (k, v) :: es => (k.load, v.load) :: loadEntries es

end

/-- The fault that is reported: the first one of those at the least level. -/
def firstFault (faults : List (Nat × Error)) : Option Error :=
  (faults.foldl (fun best f =>
    match best with
    | none => some f
    | some b => if f.1 < b.1 then some f else some b) none).map (·.2)

/-- The value of a text. -/
def load (s : String) : Result Value := do
  let cs := s.toList
  if !cs.all isTextChar then malformed
  else
    match ← readDocument (← tokens cs) with
    | none => .ok .null
    | some n =>
      let l := n.load
      match firstFault l.faults with
      | some e => .error e
      | none => .ok l.value

end StringCatalog.Yaml
