import StringCatalog.Number.Decimal
import StringCatalog.Text.Utf8
import StringCatalog.Yaml.Cursor
import StringCatalog.Yaml.Error

/-!
# StringCatalog.Yaml.Scalar

Reading scalars: plain ones, ones between quotes, and blocks of lines.  Lines
are folded: a single line end becomes a space, and of several the first one
vanishes.
-/

namespace StringCatalog.Yaml

open Number

/-- Reading either gives a result or an error. -/
abbrev Result := Except Error

def malformed : Result α := .error .malformed

/-- What a line end between two parts of a scalar leaves, where `breaks` are the further ones. -/
def folded (lineBreak : List Char) (breaks : List (List Char)) : List Char :=
  (if lineBreak ≠ ['\n'] then lineBreak else if breaks.isEmpty then [' '] else []) ++ breaks.flatten

/-! ## Plain scalars -/

/-- Whether a character that follows a colon ends a plain scalar before it. -/
def endsBeforeColon (inFlow : Bool) (c : Char) : Bool :=
  isGap c || (inFlow && [',', '[', ']', '{', '}'].contains c)

/-- The characters of a plain scalar up to a blank or a mark. -/
def plainPart (inFlow : Bool) : List Char → List Char
  | [] => []
  | c :: rest =>
    if isGap c || (c = ':' && endsBeforeColon inFlow (rest.headD '\x00')) ||
        (inFlow && [',', '?', '[', ']', '{', '}'].contains c) then []
    else c :: plainPart inFlow rest

/-- Empty lines and spaces inside a plain scalar: their line ends, unless a marker of documents
follows one of them. -/
def plainBreaks : (fuel : Nat) → Cursor → Option (List (List Char)) × Cursor
  | 0, c => (some [], c)
  | fuel + 1, c =>
    if c.head = ' ' then plainBreaks fuel c.next
    else if isBreak c.head then
      let (b, c) := c.lineBreak
      if c.isDocumentMarker then (none, c)
      else
        let (bs, c) := plainBreaks fuel c
        (bs.map (b :: ·), c)
    else (some [], c)

/-- What stands between two parts of a plain scalar, whether a line ends there, and the place after
it; nothing when no part can follow. -/
def plainGap (c : Cursor) : List Char × Bool × Cursor :=
  let (spaces, after) := c.span (· = ' ')
  if isBreak after.head then
    let (b, after) := after.lineBreak
    if after.isDocumentMarker then ([], true, after)
    else
      match plainBreaks after.rest.length after with
      | (none, after) => ([], true, after)
      | (some bs, after) => (folded b bs, true, after)
  else (spaces, false, after)

/-- Reads a plain scalar: its text, whether a simple key may follow it, and the place after it. -/
def readPlain (inFlow : Bool) (indent : Int) : (fuel : Nat) → (gap : List Char) → Cursor →
    List Char × Option Bool × Cursor
  | 0, _, c => ([], none, c)
  | fuel + 1, gap, c =>
    let part := if c.head = '#' then [] else plainPart inFlow c.rest
    if part.isEmpty then ([], none, c)
    else
      let (gap', brk, after) := plainGap (c.forward part.length)
      if gap'.isEmpty || after.head = '#' || (!inFlow && (after.column : Int) < indent) then
        (gap ++ part, some brk, after)
      else
        let (more, allows, after) := readPlain inFlow indent fuel gap' after
        (gap ++ part ++ more, some (allows.getD brk), after)

/-! ## Quoted scalars -/

def escape? (c : Char) : Option Char :=
  match c with
  | '0' => some '\x00'
  | 'a' => some '\x07'
  | 'b' => some '\x08'
  | 't' | '\t' => some '\t'
  | 'n' => some '\n'
  | 'v' => some '\x0b'
  | 'f' => some '\x0c'
  | 'r' => some '\r'
  | 'e' => some '\x1b'
  | ' ' | '"' | '\\' | '/' => some c
  | 'N' => some '\u0085'
  | '_' => some '\u00a0'
  | 'L' => some '\u2028'
  | 'P' => some '\u2029'
  | _ => none

def escapeLength? (c : Char) : Option Nat :=
  match c with
  | 'x' => some 2
  | 'u' => some 4
  | 'U' => some 8
  | _ => none

/-- The character of a numeric escape.  A lone surrogate is no character of a text here: its code
point gives U+0000. -/
def numericEscape (digits : List Char) (length : Nat) : Result Char :=
  if digits.length < length then malformed
  else
    match readDigits? 16 digits with
    | none => malformed
    | some n =>
      if n ≥ Nat.pow 2 31 then .error .characterOverflow
      else if n ≥ 0x110000 then .error .notCharacter
      else .ok (Char.ofNat n)

/-- Empty lines inside a quoted scalar; a marker of documents does not occur. -/
def quotedBreaks : (fuel : Nat) → Cursor → Result (List (List Char) × Cursor)
  | 0, c => .ok ([], c)
  | fuel + 1, c =>
    if c.isDocumentMarker then malformed
    else
      let c := c.skip fun d => d = ' ' || d = '\t'
      if isBreak c.head then do
        let (b, c) := c.lineBreak
        let (bs, c) ← quotedBreaks fuel c
        .ok (b :: bs, c)
      else .ok ([], c)

/-- What blanks and line ends inside a quoted scalar leave. -/
def quotedGap (c : Cursor) : Result (List Char × Cursor) := do
  let (blanks, c) := c.span fun d => d = ' ' || d = '\t'
  if c.head = '\x00' then malformed
  else if isBreak c.head then
    let (b, c) := c.lineBreak
    let (bs, c) ← quotedBreaks (c.rest.length + 1) c
    .ok (folded b bs, c)
  else .ok (blanks, c)

/-- Reads a quoted scalar behind its quote. -/
def readQuoted (quote : Char) : (fuel : Nat) → Cursor → Result (List Char × Cursor)
  | 0, _ => malformed
  | fuel + 1, c => do
    let d := c.head
    let isDouble := quote = '"'
    if d = quote && (isDouble || c.peek 1 ≠ quote) then .ok ([], c.next)
    else
      let (part, c) ←
        if d = quote then .ok ([quote], c.forward 2)
        else if isGap d then quotedGap c
        else if isDouble && d = '\\' then
          let e := c.peek 1
          match escape? e, escapeLength? e with
          | some r, _ => .ok ([r], c.forward 2)
          | none, some n =>
            let digits := (c.rest.drop 2).take n
            (numericEscape digits n).map fun r => ([r], c.forward (2 + n))
          | none, none =>
            if isBreak e then do
              let after := c.next.lineBreak.2
              let (bs, after) ← quotedBreaks (after.rest.length + 1) after
              .ok (bs.flatten, after)
            else malformed
        else .ok ([d], c.next)
      let (more, c) ← readQuoted quote fuel c
      .ok (part ++ more, c)

/-! ## Blocks -/

/-- What is done with the line ends at the end of a block: by default one of them stays. -/
inductive Chomping where
  | strip
  | clip
  | keep
  deriving DecidableEq, Repr

/-- A digit of the further indentation of a block. -/
def increment? (c : Char) : Option Nat :=
  if c.isDigit then some (c.toNat - '0'.toNat) else none

/-- A mark of what is done at the end of a block. -/
def chomping? (c : Char) : Option Chomping :=
  if c = '+' then some .keep else if c = '-' then some .strip else none

/-- Reads the marks behind the opening of a block, in either order. -/
def readBlockMarks (c : Cursor) : Result (Chomping × Option Nat × Cursor) := do
  let (chomping, increment, c) :=
    match chomping? c.head with
    | some k =>
      match increment? (c.peek 1) with
      | some n => (k, some n, c.forward 2)
      | none => (k, none, c.next)
    | none =>
      match increment? c.head with
      | some n =>
        match chomping? (c.peek 1) with
        | some k => (k, some n, c.forward 2)
        | none => (.clip, some n, c.next)
      | none => (.clip, none, c)
  if increment = some 0 || !isSpaceOrEnd c.head then malformed
  else .ok (chomping, increment, c)

/-- The place after the rest of a line that holds nothing but a comment. -/
def skipRestOfLine (c : Cursor) : Result Cursor :=
  let c := c.skipSpaces
  let c := if c.head = '#' then c.skipLine else c
  if isLineEnd c.head then .ok c.lineBreak.2 else malformed

/-- The empty lines at the start of a block, and the widest of them. -/
def blockIndentation : (fuel : Nat) → (widest : Nat) → Cursor → List (List Char) × Nat × Cursor
  | 0, widest, c => ([], widest, c)
  | fuel + 1, widest, c =>
    if c.head = ' ' then
      let c := c.next
      blockIndentation fuel (max widest c.column) c
    else if isBreak c.head then
      let (b, c) := c.lineBreak
      let (bs, widest, c) := blockIndentation fuel widest c
      (b :: bs, widest, c)
    else ([], widest, c)

/-- The place after spaces up to a column. -/
def skipIndent (indent : Nat) (c : Cursor) : Cursor :=
  c.forward (min (indent - c.column) (c.span (· = ' ')).1.length)

/-- The empty lines inside a block. -/
def blockBreaks (indent : Nat) : (fuel : Nat) → Cursor → List (List Char) × Cursor
  | 0, c => ([], c)
  | fuel + 1, c =>
    let c := skipIndent indent c
    if isBreak c.head then
      let (b, c) := c.lineBreak
      let (bs, c) := blockBreaks indent fuel c
      (b :: bs, c)
    else ([], c)

/-- Reads the lines of a block: their text, the last line end, and the empty lines after it. -/
def readBlockLines (isFolded : Bool) (indent : Nat) : (fuel : Nat) → (breaks : List (List Char)) →
    Cursor → List Char × List Char × List (List Char) × Cursor
  | 0, breaks, c => ([], [], breaks, c)
  | fuel + 1, breaks, c =>
    if c.column = indent && c.head ≠ '\x00' then
      let startsBlank := c.head = ' ' || c.head = '\t'
      let (line, after) := c.span fun d => !isLineEnd d
      let (b, after) := after.lineBreak
      let (breaks', after) := blockBreaks indent (after.rest.length + 1) after
      if after.column = indent && after.head ≠ '\x00' then
        let glue :=
          if isFolded && b = ['\n'] && !startsBlank && !(after.head = ' ' || after.head = '\t') then
            if breaks'.isEmpty then [' '] else []
          else b
        let (more, last, end', after) := readBlockLines isFolded indent fuel breaks' after
        (breaks.flatten ++ line ++ glue ++ more, last, end', after)
      else (breaks.flatten ++ line, b, breaks', after)
    else ([], [], breaks, c)

/-- Reads a block behind its opening; `parent` is the column of the collection around it. -/
def readBlock (isFolded : Bool) (parent : Int) (c : Cursor) : Result (List Char × Cursor) := do
  let (chomping, increment, c) ← readBlockMarks c
  let c ← skipRestOfLine c
  let least := (max (parent + 1) 1).toNat
  let (breaks, indent, c) := match increment with
    | none =>
      let (breaks, widest, c) := blockIndentation (c.rest.length + 1) 0 c
      (breaks, max least widest, c)
    | some n =>
      let indent := least + n - 1
      let (breaks, c) := blockBreaks indent (c.rest.length + 1) c
      (breaks, indent, c)
  let (text, last, breaks, c) := readBlockLines isFolded indent (c.rest.length + 1) breaks c
  .ok (text ++ (if chomping = .strip then [] else last) ++
    (if chomping = .keep then breaks.flatten else []), c)

end StringCatalog.Yaml
