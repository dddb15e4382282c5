import StringCatalog.Text.Lines
import StringCatalog.Text.Utf8

/-!
# StringCatalog.Markup.Encoding

From the bytes of a document to its characters.  A byte order mark decides the
encoding; without one, documents in sixteen-bit units show by their first bytes,
and all others by the name that they declare.
-/

namespace StringCatalog.Markup

open Text

inductive Encoding where
  | utf8
  | utf16 (littleEndian : Bool)
  | latin1
  | ascii
  deriving DecidableEq, Repr

/-- The characters of a document.  A damaged document has bytes that its encoding does not know. -/
structure Decoded where
  chars : List Char
  damaged : Bool

/-- What stands for a byte that the encoding does not know. -/
def replacement : Char := Char.ofNat 0xfffd

/-- Bytes of one character each, up to the first one that is not below `limit`. -/
def decodeBytes (limit : Nat) (bytes : List UInt8) : Decoded :=
  let known := bytes.takeWhile fun b => b.toNat < limit
  ⟨known.map fun b => Char.ofNat b.toNat, known.length < bytes.length⟩

/-- The units of sixteen bits, and whether a byte is left over. -/
def units (littleEndian : Bool) : List UInt8 → List Nat × Bool
  | a :: b :: rest =>
    let (us, odd) := units littleEndian rest
    ((if littleEndian then b.toNat * 256 + a.toNat else a.toNat * 256 + b.toNat) :: us, odd)
  | [] => ([], false)
  | [_] => ([], true)

/-- The characters of sixteen-bit units, up to the first surrogate that is not in a pair. -/
def decodeUnits : List Nat → Decoded
  | [] => ⟨[], false⟩
  | [u] =>
    if 0xd800 ≤ u && u ≤ 0xdfff then ⟨[], true⟩ else ⟨[Char.ofNat u], false⟩
  | u :: v :: rest =>
    if 0xd800 ≤ u && u ≤ 0xdfff then
      if u ≤ 0xdbff && 0xdc00 ≤ v && v ≤ 0xdfff then
        let c := Char.ofNat (0x10000 + (u - 0xd800) * 1024 + (v - 0xdc00))
        let d := decodeUnits rest
        ⟨c :: d.chars, d.damaged⟩
      else ⟨[], true⟩
    else
      let d := decodeUnits (v :: rest)
      ⟨Char.ofNat u :: d.chars, d.damaged⟩

/-- The characters of bytes in an encoding. -/
def Encoding.decode (e : Encoding) (bytes : List UInt8) : Decoded :=
  match e with
  | .utf8 =>
    let cs := decodeUtf8 bytes
    ⟨cs.map (·.getD replacement), cs.any Option.isNone⟩
  | .utf16 littleEndian =>
    let (us, odd) := units littleEndian bytes
    let d := decodeUnits us
    ⟨d.chars, d.damaged || odd⟩
  | .latin1 => decodeBytes 0x100 bytes
  | .ascii => decodeBytes 0x80 bytes

/-- The encoding that the first bytes show, and the bytes after the byte order mark. -/
def detect (bytes : List UInt8) : Option Encoding × List UInt8 :=
  match bytes with
  | 0xef :: 0xbb :: 0xbf :: rest => (some .utf8, rest)
  | 0xff :: 0xfe :: rest => (some (.utf16 true), rest)
  | 0xfe :: 0xff :: rest => (some (.utf16 false), rest)
  | 0x3c :: 0 :: 0x3f :: 0 :: _ => (some (.utf16 true), bytes)
  | 0 :: 0x3c :: 0 :: 0x3f :: _ => (some (.utf16 false), bytes)
  | _ => (none, bytes)

/-- The encoding of eight-bit units that a declared name stands for. -/
def Encoding.named? (name : String) : Option Encoding :=
  let n := name.map Char.toLower
  if n = "utf-8" || n = "utf8" then some .utf8
  else if n = "iso-8859-1" || n = "iso8859-1" || n = "iso-latin-1" || n = "latin1" then some .latin1
  else if n = "us-ascii" || n = "ascii" then some .ascii
  else none

/-- The characters with every line end as a line feed. -/
def Decoded.unified (d : Decoded) : Decoded := {d with chars := unifyLineEnds d.chars}

end StringCatalog.Markup
