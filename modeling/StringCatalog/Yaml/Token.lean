import StringCatalog.Yaml.Scalar

/-!
# StringCatalog.Yaml.Token

A configuration text as tokens.  Indentation opens and closes collections.  A
scalar or collection may turn out to be a key only when the colon behind it is
met; each place where a key may start is kept as a slot, which opens a key if a
colon claims it and vanishes otherwise.

* `tokens` — the tokens of a text.
-/

namespace StringCatalog.Yaml

/-- A tag as it is written: the handle of its namespace, if it has one, and what follows. -/
structure WrittenTag where
  handle : Option String
  suffix : String
  deriving DecidableEq, Repr

inductive Token where
  | version (major : Nat)
  | tagHandle (handle : String) (expansion : String)
  | directive
  | documentStart
  | documentEnd
  | blockSequenceStart
  | blockMappingStart
  | blockEnd
  | flowSequenceStart
  | flowMappingStart
  | flowSequenceEnd
  | flowMappingEnd
  | flowEntry
  | blockEntry
  | key
  | value
  | alias (name : String)
  | anchor (name : String)
  | tag (t : WrittenTag)
  | scalar (text : String) (isPlain : Bool)
  | slot (id : Nat)
  deriving DecidableEq, Repr

/-- A place where a key may have started. -/
structure KeySlot where
  level : Nat
  id : Nat
  isRequired : Bool
  index : Nat
  line : Nat
  column : Nat

/-- How far the text has been scanned: the place, the indentation and those around it, how deep flow
collections nest, whether a key may start here, the slots that are open, and what was found.  A
claimed slot tells whether it also starts a mapping. -/
structure Scan where
  here : Cursor
  indent : Int
  outer : List Int
  flowLevel : Nat
  allowsKey : Bool
  slots : List KeySlot
  nextSlot : Nat
  claimed : List (Nat × Bool)
  found : List Token

namespace Scan

def start (cs : List Char) : Scan := ⟨Cursor.start cs, -1, [], 0, true, [], 0, [], []⟩

def emit (s : Scan) (t : Token) : Scan := {s with found := t :: s.found}

def inFlow (s : Scan) : Bool := s.flowLevel > 0

/-! ## Slots -/

/-- The most characters between the start of a key and its colon. -/
def maxKeyLength : Nat := 1024

/-- Drops the slots that are too far back; one that must be a key is not dropped. -/
def dropStale (s : Scan) : Result Scan :=
  let isStale (k : KeySlot) : Bool :=
    k.line ≠ s.here.line || s.here.index - k.index > maxKeyLength
  if s.slots.any fun k => isStale k && k.isRequired then malformed
  else .ok {s with slots := s.slots.filter fun k => !isStale k}

/-- Drops the slot of this level; one that must be a key is not dropped. -/
def dropSlot (s : Scan) : Result Scan :=
  if s.slots.any fun k => k.level = s.flowLevel && k.isRequired then malformed
  else .ok {s with slots := s.slots.filter fun k => k.level ≠ s.flowLevel}

/-- Opens a slot here if a key may start. -/
def openSlot (s : Scan) : Result Scan :=
  if s.allowsKey then do
    let s ← s.dropSlot
    let k : KeySlot := {
      level := s.flowLevel, id := s.nextSlot
      isRequired := !s.inFlow && s.indent = s.here.column
      index := s.here.index, line := s.here.line, column := s.here.column }
    .ok ({s with slots := k :: s.slots, nextSlot := s.nextSlot + 1}.emit (.slot k.id))
  else .ok s

/-! ## Indentation -/

/-- Closes the block collections that stand further to the right than a column. -/
def closeTo (column : Int) : List Int → Scan → Scan
  | [], s => s
  | parent :: outer, s =>
    if s.indent > column then closeTo column outer ({s with indent := parent, outer}.emit .blockEnd)
    else s

/-- Closes block collections, unless inside a flow collection. -/
def unwind (s : Scan) (column : Int) : Scan :=
  if s.inFlow then s else closeTo column s.outer s

/-- Opens a block collection at a column, if it stands further to the right than the one around. -/
def deepen (s : Scan) (column : Int) : Bool × Scan :=
  if s.indent < column then (true, {s with outer := s.indent :: s.outer, indent := column})
  else (false, s)

/-! ## Names and tags -/

/-- Whether a character may stand in a handle or an anchor. -/
def isWordChar (c : Char) : Bool := c.isAlphanum || c = '-' || c = '_'

/-- Reads an anchor or an alias behind its mark. -/
def readAnchor (c : Cursor) : Result (String × Cursor) :=
  let (name, after) := c.span isWordChar
  if name.isEmpty then malformed
  else if isGap after.head || "?:,]\x7d%@\x60".toList.contains after.head then
    .ok (String.ofList name, after)
  else malformed

/-- Reads a handle of tags: exclamation marks with a word between, or a single one before a
space. -/
def readHandle (c : Cursor) : Result (String × Cursor) :=
  if c.head ≠ '!' then malformed
  else if c.peek 1 = ' ' then .ok ("!", c.next)
  else
    let (word, after) := c.next.span isWordChar
    if after.head = '!' then .ok (String.ofList ('!' :: word ++ ['!']), after.next) else malformed

/-- Whether a character may stand in the address of a tag. -/
def isTagChar (c : Char) : Bool := c.isAlphanum || "-;/?:@&=+$,_.!~*'()[]%".toList.contains c

/-- The bytes of escapes in an address, and what follows them. -/
def readTagBytes : List Char → Option (List UInt8 × List Char)
  | '%' :: a :: b :: rest => do
    let n ← Number.readDigits? 16 [a, b]
    let (bs, rest) ← readTagBytes rest
    pure (n.toUInt8 :: bs, rest)
  | '%' :: _ => none
  | rest => some ([], rest)

/-- The characters of an address with its escapes resolved. -/
def resolveTagChars (fuel : Nat) (cs : List Char) : Option (List Char) :=
  match fuel, cs with
  | _, [] => some []
  | 0, _ => none
  | fuel + 1, '%' :: rest => do
    let (bytes, rest) ← readTagBytes ('%' :: rest)
    let chars ← (Text.decodeUtf8 bytes).mapM id
    let more ← resolveTagChars fuel rest
    pure (chars ++ more)
  | fuel + 1, c :: rest => (resolveTagChars fuel rest).map (c :: ·)

def readTagAddress (c : Cursor) : Result (String × Cursor) :=
  let (written, after) := c.span isTagChar
  match resolveTagChars written.length written with
  | some (d :: ds) => .ok (String.ofList (d :: ds), after)
  | _ => malformed

def readTag (c : Cursor) : Result (WrittenTag × Cursor) := do
  let second := c.peek 1
  let (t, c) ←
    if second = '<' then do
      let (suffix, c) ← readTagAddress (c.forward 2)
      if c.head = '>' then .ok ((⟨none, suffix⟩ : WrittenTag), c.next) else malformed
    else if isGap second then .ok (⟨none, "!"⟩, c.next)
    else
      let word := c.rest.tail.takeWhile fun d => !isSpaceOrEnd d
      let (handle, c) ← if word.contains '!' then readHandle c else .ok ("!", c.next)
      let (suffix, c) ← readTagAddress c
      .ok (⟨some handle, suffix⟩, c)
  if isSpaceOrEnd c.head then .ok (t, c) else malformed

/-! ## Directives -/

def readNumber (c : Cursor) : Result (Nat × Cursor) :=
  let (ds, after) := c.span Char.isDigit
  match ds, Number.readDigits? 10 ds with
  | _ :: _, some n => .ok (n, after)
  | _, _ => malformed

/-- Reads a directive behind its percent sign. -/
def readDirective (c : Cursor) : Result (Token × Cursor) := do
  let (name, c) := c.span isWordChar
  if name.isEmpty || !isSpaceOrEnd c.head then malformed
  else
    let (token, c) ←
      if name = "YAML".toList then do
        let (major, c) ← readNumber c.skipSpaces
        if c.head ≠ '.' then malformed
        else
          let (_, c) ← readNumber c.next
          if isSpaceOrEnd c.head then .ok (.version major, c) else malformed
      else if name = "TAG".toList then do
        let (handle, c) ← readHandle c.skipSpaces
        if c.head ≠ ' ' then malformed
        else
          let (expansion, c) ← readTagAddress c.skipSpaces
          if isSpaceOrEnd c.head then .ok (.tagHandle handle expansion, c) else malformed
      else .ok (.directive, c.skipLine)
    .ok (token, ← skipRestOfLine c)

/-! ## The scan -/

/-- The place of the next token: blanks, comments and line ends are passed over. -/
def toNextToken : (fuel : Nat) → Scan → Scan
  | 0, s => s
  | fuel + 1, s =>
    let c := s.here.skipSpaces
    let c := if c.head = '#' then c.skipLine else c
    if isBreak c.head then
      toNextToken fuel {s with here := c.lineBreak.2, allowsKey := s.allowsKey || !s.inFlow}
    else {s with here := c}

/-- Ends all block collections and lets no key start. -/
def interrupt (s : Scan) : Result Scan := do
  .ok {← (s.unwind (-1)).dropSlot with allowsKey := false}

def openFlow (s : Scan) (t : Token) : Result Scan := do
  let s ← s.openSlot
  .ok ({s with flowLevel := s.flowLevel + 1, allowsKey := true, here := s.here.next}.emit t)

def closeFlow (s : Scan) (t : Token) : Result Scan := do
  if s.flowLevel = 0 then malformed
  else
    let s ← s.dropSlot
    .ok ({s with flowLevel := s.flowLevel - 1, allowsKey := false, here := s.here.next}.emit t)

/-- A mark that opens a block collection unless one is open at this column. -/
def openBlock (s : Scan) (t : Token) : Result Scan :=
  if s.inFlow then .ok s
  else if !s.allowsKey then malformed
  else
    let (isNew, s) := s.deepen s.here.column
    .ok (if isNew then s.emit t else s)

def blockEntry (s : Scan) : Result Scan := do
  let s ← s.openBlock .blockSequenceStart
  let s ← {s with allowsKey := true}.dropSlot
  .ok ({s with here := s.here.next}.emit .blockEntry)

def explicitKey (s : Scan) : Result Scan := do
  let s ← s.openBlock .blockMappingStart
  let s ← {s with allowsKey := !s.inFlow}.dropSlot
  .ok ({s with here := s.here.next}.emit .key)

/-- The colon before a value: it claims the slot of this level, or stands by itself. -/
def value (s : Scan) : Result Scan := do
  match s.slots.find? fun k => k.level = s.flowLevel with
  | some k =>
    let (isNew, s) := if s.inFlow then (false, s) else s.deepen k.column
    let s := {s with
      slots := s.slots.filter fun q => q.level ≠ s.flowLevel
      claimed := (k.id, isNew) :: s.claimed
      allowsKey := false }
    .ok ({s with here := s.here.next}.emit .value)
  | none =>
    let s ← s.openBlock .blockMappingStart
    let s ← {s with allowsKey := !s.inFlow}.dropSlot
    .ok ({s with here := s.here.next}.emit .value)

/-- A token that a key may start with. -/
def node (s : Scan) (read : Cursor → Result (Token × Cursor)) : Result Scan := do
  let s ← s.openSlot
  let (t, c) ← read s.here
  .ok ({s with allowsKey := false, here := c}.emit t)

def block (s : Scan) (isFolded : Bool) : Result Scan := do
  let s ← {s with allowsKey := true}.dropSlot
  let (text, c) ← readBlock isFolded s.indent s.here.next
  .ok ({s with here := c}.emit (.scalar (String.ofList text) false))

def plain (s : Scan) : Result Scan := do
  let s ← s.openSlot
  let (text, allows, c) := readPlain s.inFlow (s.indent + 1) (s.here.rest.length + 1) [] s.here
  .ok ({s with allowsKey := allows.getD false, here := c}.emit (.scalar (String.ofList text) true))

def startsPlain (s : Scan) : Bool :=
  let c := s.here.head
  (!isGap c && !"-?:,[]\x7b\x7d#&*!|>\x27\"%@\x60".toList.contains c) ||
    (!isGap (s.here.peek 1) && (c = '-' || (!s.inFlow && (c = '?' || c = ':'))))

def step (s : Scan) : Result Scan :=
  let c := s.here.head
  let second := s.here.peek 1
  if c = '%' && s.here.column = 0 then do
    let s ← s.interrupt
    let (t, c) ← readDirective s.here.next
    .ok ({s with here := c}.emit t)
  else if s.here.column = 0 && s.here.isDocumentMarker then do
    let s ← s.interrupt
    .ok ({s with here := s.here.forward 3}.emit (if c = '-' then .documentStart else .documentEnd))
  else if c = '[' then s.openFlow .flowSequenceStart
  else if c = '{' then s.openFlow .flowMappingStart
  else if c = ']' then s.closeFlow .flowSequenceEnd
  else if c = '}' then s.closeFlow .flowMappingEnd
  else if c = ',' then do
    let s ← {s with allowsKey := true}.dropSlot
    .ok ({s with here := s.here.next}.emit .flowEntry)
  else if c = '-' && isGap second then s.blockEntry
  else if c = '?' && (s.inFlow || isGap second) then s.explicitKey
  else if c = ':' && (s.inFlow || isGap second) then s.value
  else if c = '*' then
    s.node fun c => do
      let (name, c) ← readAnchor c.next
      .ok (.alias name, c)
  else if c = '&' then
    s.node fun c => do
      let (name, c) ← readAnchor c.next
      .ok (.anchor name, c)
  else if c = '!' then
    s.node fun c => do
      let (t, c) ← readTag c
      .ok (.tag t, c)
  else if (c = '|' || c = '>') && !s.inFlow then s.block (c = '>')
  else if c = '"' || c = '\x27' then
    s.node fun here => do
      let (text, here) ← readQuoted c (here.rest.length + 1) here.next
      .ok (.scalar (String.ofList text) false, here)
  else if s.startsPlain then s.plain
  else malformed

/-- Scans tokens up to the end of the text. -/
def run : (fuel : Nat) → Scan → Result Scan
  | 0, _ => malformed
  | fuel + 1, s => do
    let s := toNextToken (s.here.rest.length + 1) s
    let s ← s.dropStale
    let s := s.unwind s.here.column
    if s.here.rest.isEmpty then s.interrupt else run fuel (← s.step)

/-- What a slot leaves: nothing, or the start of a key, with that of a mapping if it starts one. -/
def settle (claimed : List (Nat × Bool)) : Token → List Token
  | .slot id =>
    match claimed.find? fun e => e.1 = id with
    | some (_, true) => [.blockMappingStart, .key]
    | some (_, false) => [.key]
    | none => []
  | t => [t]

end Scan

/-- The tokens of a text; a byte order mark at its start is passed over. -/
def tokens (cs : List Char) : Result (List Token) := do
  let start := Scan.start cs
  let start := if start.here.head = '\ufeff' then {start with here := start.here.next} else start
  let s ← Scan.run (2 * cs.length + 2) start
  .ok (s.found.reverse.flatMap (Scan.settle s.claimed))

end StringCatalog.Yaml
