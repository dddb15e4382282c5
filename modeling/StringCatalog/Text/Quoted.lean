import StringCatalog.Text.Printable

/-!
# StringCatalog.Text.Quoted

Texts between quotes, on one line or as the documentation of a module.  A
one-line text stands between apostrophes, or between double quotes when it has
apostrophes and no double quote; backslashes, the quote in use and characters
that are not printable are escapes.  A documentation text stands between triple
quotes and keeps newlines and tabs.

Reading takes a quoted text from the front of a longer text and returns what
follows it.
-/

namespace StringCatalog.Text

/-! ## Writing -/

/-- Hexadecimal digits with zeros in front up to a length. -/
def hexDigits (width n : Nat) : List Char :=
  let ds := Nat.toDigits 16 n
  List.replicate (width - ds.length) '0' ++ ds

/-- The escape of a character by name or by number. -/
def numericEscape (c : Char) : List Char :=
  if c = '\n' then ['\\', 'n']
  else if c = '\r' then ['\\', 'r']
  else if c = '\t' then ['\\', 't']
  else if c.toNat ≤ 0xff then '\\' :: 'x' :: hexDigits 2 c.toNat
  else if c.toNat ≤ 0xffff then '\\' :: 'u' :: hexDigits 4 c.toNat
  else '\\' :: 'U' :: hexDigits 8 c.toNat

/-- A character between quotes. -/
def quotedChar (quote c : Char) : List Char :=
  if c = quote || c = '\\' then ['\\', c]
  else if isPrintable c then [c]
  else numericEscape c

/-- The quote for a text: the apostrophe, unless only that one would need escapes. -/
def quoteFor (cs : List Char) : Char :=
  if cs.contains '\x27' && !cs.contains '"' then '"' else '\x27'

/-- What stands between the quotes of a one-line text. -/
def quotedBody (cs : List Char) : List Char := cs.flatMap (quotedChar (quoteFor cs))

/-- A one-line text with its quotes. -/
def quotedChars (cs : List Char) : List Char :=
  quoteFor cs :: quotedBody cs ++ [quoteFor cs]

/-- A one-line text with its quotes. -/
def quoted (s : String) : String := String.ofList (quotedChars s.toList)

/-- A character of a documentation text. -/
def documentChar (c : Char) : List Char :=
  if c = '\\' then ['\\', '\\']
  else if c = '\n' || c = '\t' || isPrintable c then [c]
  else numericEscape c

/-- Whether a character stands three times in a row somewhere. -/
def hasTriple (q : Char) : List Char → Bool
  | a :: b :: c :: rest => (a = q && b = q && c = q) || hasTriple q (b :: c :: rest)
  | _ => false

def tripled (q : Char) : List Char := [q, q, q]

/-- A documentation text between triple quotes: double quotes if they do not occur tripled,
otherwise apostrophes if those do not, and otherwise its one-line form between apostrophes. -/
def documentChars (cs : List Char) : List Char :=
  let body := cs.flatMap documentChar
  if !hasTriple '"' body then tripled '"' ++ body ++ tripled '"'
  else if !hasTriple '\x27' body then tripled '\x27' ++ body ++ tripled '\x27'
  else tripled '\x27' ++ quotedBody cs ++ tripled '\x27'

/-! ## Reading -/

def hexValue? (c : Char) : Option Nat :=
  if c.isDigit then some (c.toNat - '0'.toNat)
  else if 'a' ≤ c && c ≤ 'f' then some (c.toNat - 'a'.toNat + 10)
  else if 'A' ≤ c && c ≤ 'F' then some (c.toNat - 'A'.toNat + 10)
  else none

/-- The character of hexadecimal digits, if their number is that of one. -/
def hexChar? (ds : List Char) : Option Char :=
  (ds.foldlM (fun acc c => (hexValue? c).map (acc * 16 + ·)) 0).bind fun n =>
    if n.isValidChar then some (Char.ofNat n) else none

/-- The character that a one-letter escape stands for. -/
def simpleEscape? (c : Char) : Option Char :=
  if c = '\\' || c = '"' || c = '\x27' then some c
  else if c = 'n' then some '\n'
  else if c = 'r' then some '\r'
  else if c = 't' then some '\t'
  else none

/-- The forms of a quoted text: on one line, or as documentation. -/
inductive QuotedForm where
  | line
  | document
  deriving DecidableEq, Repr

/-- Whether a character may stand between quotes as it is.  A line end ends a one-line text; a
carriage return would be read as a line feed. -/
def QuotedForm.admits : QuotedForm → Char → Bool
  | .line, c => c ≠ '\n' && c ≠ '\r' && c ≠ '\x00'
  | .document, c => c ≠ '\r' && c ≠ '\x00'

/-- One character, escaped or not, and what follows it. -/
def readChar? (form : QuotedForm) : List Char → Option (Char × List Char)
  | '\\' :: 'x' :: a :: b :: rest => (hexChar? [a, b]).map (·, rest)
  | '\\' :: 'u' :: a :: b :: c :: d :: rest => (hexChar? [a, b, c, d]).map (·, rest)
  | '\\' :: 'U' :: a :: b :: c :: d :: e :: f :: g :: h :: rest =>
    (hexChar? [a, b, c, d, e, f, g, h]).map (·, rest)
  | '\\' :: c :: rest => (simpleEscape? c).map (·, rest)
  | '\\' :: [] => none
  | c :: rest => if form.admits c then some (c, rest) else none
  | [] => none

/-- Reading a character takes at least one. -/
theorem length_lt_of_readChar? {form : QuotedForm} {cs : List Char} {c : Char} {rest : List Char}
    (h : readChar? form cs = some (c, rest)) : rest.length < cs.length := by
  unfold readChar? at h
  split at h
  case h_5 => cases h
  case h_6 =>
    split at h
    · cases h; simp
    · cases h
  case h_7 => cases h
  all_goals
    obtain ⟨_, _, h⟩ := Option.map_eq_some_iff.1 h
    cases h
    simp only [List.length_cons]
    omega

/-- The characters up to `close`, unescaped, and what follows it. -/
def readUntil? (form : QuotedForm) (close : List Char) (cs : List Char) :
    Option (List Char × List Char) :=
  if close.isPrefixOf cs then some ([], cs.drop close.length)
  else
    match h : readChar? form cs with
    | none => none
    | some (c, rest) =>
      have := length_lt_of_readChar? h
      (readUntil? form close rest).map fun (body, after) => (c :: body, after)
termination_by cs.length

/-- A quoted text of either form and what follows it. -/
def readQuoted? : List Char → Option (List Char × List Char)
  | '"' :: '"' :: '"' :: rest => readUntil? .document (tripled '"') rest
  | '\x27' :: '\x27' :: '\x27' :: rest => readUntil? .document (tripled '\x27') rest
  | '"' :: rest => readUntil? .line ['"'] rest
  | '\x27' :: rest => readUntil? .line ['\x27'] rest
  | _ => none

end StringCatalog.Text
