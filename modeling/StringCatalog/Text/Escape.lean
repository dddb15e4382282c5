/-!
# StringCatalog.Text.Escape

The escapes of catalog texts: a backslash before a quote, an apostrophe, `n` or
`t` stands for a quote, an apostrophe, a newline or a tab.  Every other
backslash stands for itself; there is no escape for the backslash.
-/

namespace StringCatalog.Text

/-- The character that a backslash before `c` stands for, if it is an escape. -/
def escaped? (c : Char) : Option Char :=
  if c = '"' || c = '\x27' then some c
  else if c = 'n' then some '\n'
  else if c = 't' then some '\t'
  else none

/-- Resolves escapes in one pass from left to right. -/
def unescapeChars : List Char → List Char
  | [] => []
  | [c] => [c]
  | c :: d :: rest =>
    if c = '\\' then
      match escaped? d with
      | some e => e :: unescapeChars rest
      | none => c :: unescapeChars (d :: rest)
    else c :: unescapeChars (d :: rest)

/-- The text that a catalog text stands for. -/
def unescape (s : String) : String := String.ofList (unescapeChars s.toList)

/-- The letter of the escape that stands for `c`, if it needs one. -/
def escapeLetter? (c : Char) : Option Char :=
  if c = '"' || c = '\x27' then some c
  else if c = '\n' then some 'n'
  else if c = '\t' then some 't'
  else none

/-- Writes quotes, apostrophes, newlines and tabs as escapes, and all else as it is. -/
def escapeChars (cs : List Char) : List Char :=
  cs.flatMap fun c =>
    match escapeLetter? c with
    | some l => ['\\', l]
    | none => [c]

/-- The catalog text that stands for `s`, as far as there is one. -/
def escape (s : String) : String := String.ofList (escapeChars s.toList)

end StringCatalog.Text
