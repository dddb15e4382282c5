import StringCatalog.Text.Ranges

/-!
# StringCatalog.Markup.Character

The characters of markup documents: which may occur at all, which are blank,
and which make up names.
-/

namespace StringCatalog.Markup

open Text

def isMarkupChar (c : Char) : Bool :=
  let n := c.toNat
  n = 0x9 || n = 0xa || n = 0xd || (0x20 ≤ n && n ≤ 0xd7ff) || (0xe000 ≤ n && n ≤ 0xfffd) ||
    0x10000 ≤ n

def isBlank (c : Char) : Bool := c = ' ' || c = '\t' || c = '\n' || c = '\r'

/-- The characters above ASCII that may start a name. -/
def nameStartRanges : Ranges := [
  (0xc0, 0xd6), (0xd8, 0xf6), (0xf8, 0x2ff), (0x370, 0x37d), (0x37f, 0x1fff), (0x200c, 0x200d),
  (0x2070, 0x218f), (0x2c00, 0x2fef), (0x3001, 0xd7ff), (0xf900, 0xfdcf), (0xfdf0, 0xfffd),
  (0x10000, 0xeffff)]

/-- The further characters above ASCII that may stand in a name. -/
def nameRestRanges : Ranges := [(0xb7, 0xb7), (0x300, 0x36f), (0x203f, 0x2040)]

/-- Whether a character may start a name; the colon is left out. -/
def isNameStart (c : Char) : Bool :=
  if c.toNat < 0x80 then c.isAlpha || c = '_' else nameStartRanges.holds c.toNat

/-- Whether a character may stand in a name; the colon is left out. -/
def isNameRest (c : Char) : Bool :=
  if c.toNat < 0x80 then c.isAlphanum || c = '_' || c = '-' || c = '.'
  else nameStartRanges.holds c.toNat || nameRestRanges.holds c.toNat

def isPublicIdChar (c : Char) : Bool :=
  c = ' ' || c = '\n' || c = '\r' || c.isAlphanum || "-'()+,./:=?;!*#@$_%".toList.contains c

end StringCatalog.Markup
