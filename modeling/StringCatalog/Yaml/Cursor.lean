/-!
# StringCatalog.Yaml.Cursor

A place in a configuration text: what follows, and the line and column that it
is at.  The end of the text is seen as a null character, which no text holds.
-/

namespace StringCatalog.Yaml

def isTextChar (c : Char) : Bool :=
  let n := c.toNat
  n = 0x9 || n = 0xa || n = 0xd || (0x20 ≤ n && n ≤ 0x7e) || n = 0x85 ||
    (0xa0 ≤ n && n ≤ 0xd7ff) || (0xe000 ≤ n && n ≤ 0xfffd) || 0x10000 ≤ n

def isBreak (c : Char) : Bool :=
  c = '\n' || c = '\r' || c = '\u0085' || c = '\u2028' || c = '\u2029'

/-- Whether a character ends a line or the text. -/
def isLineEnd (c : Char) : Bool := c = '\x00' || isBreak c

/-- Whether a character ends a line or the text or is a space. -/
def isSpaceOrEnd (c : Char) : Bool := c = ' ' || isLineEnd c

/-- Whether a character ends a word: blank, the end of a line, or the end of the text. -/
def isGap (c : Char) : Bool := c = '\t' || isSpaceOrEnd c

/-- A place in a text. -/
structure Cursor where
  rest : List Char
  index : Nat
  line : Nat
  column : Nat
  deriving Repr

namespace Cursor

def start (cs : List Char) : Cursor := ⟨cs, 0, 0, 0⟩

def peek (c : Cursor) (n : Nat) : Char := c.rest.getD n '\x00'

def head (c : Cursor) : Char := c.rest.headD '\x00'

/-- One character further; byte order marks take no column. -/
def next (c : Cursor) : Cursor :=
  match c.rest with
  | [] => c
  | d :: rest =>
    if isBreak d && !(d = '\r' && rest.head? = some '\n') then ⟨rest, c.index + 1, c.line + 1, 0⟩
    else ⟨rest, c.index + 1, c.line, if d = '\ufeff' then c.column else c.column + 1⟩

def forward (c : Cursor) : Nat → Cursor
  | 0 => c
  | n + 1 => c.next.forward n

/-- The characters of some sort here, and the place after them. -/
def span (c : Cursor) (p : Char → Bool) : List Char × Cursor :=
  let taken := c.rest.takeWhile p
  (taken, c.forward taken.length)

/-- The place after the characters of some sort. -/
def skip (c : Cursor) (p : Char → Bool) : Cursor := (c.span p).2

def skipSpaces (c : Cursor) : Cursor := c.skip (· = ' ')

def skipLine (c : Cursor) : Cursor := c.skip fun d => !isLineEnd d

/-- The end of a line as a text keeps it, and the place after it; nothing where no line ends. -/
def lineBreak (c : Cursor) : List Char × Cursor :=
  let d := c.head
  if d = '\r' && c.peek 1 = '\n' then (['\n'], c.forward 2)
  else if d = '\r' || d = '\n' || d = '\u0085' then (['\n'], c.next)
  else if isBreak d then ([d], c.next)
  else ([], c)

/-- Whether three characters of one sort stand here before a gap. -/
def isMarker (c : Cursor) (d : Char) : Bool :=
  c.rest.take 3 = [d, d, d] && isGap (c.peek 3)

/-- Whether a line here starts or ends a document. -/
def isDocumentMarker (c : Cursor) : Bool := c.isMarker '-' || c.isMarker '.'

end Cursor

end StringCatalog.Yaml
