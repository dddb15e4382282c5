/-!
# StringCatalog.Text.Utf8

Reading bytes as UTF-8 where some of them may be wrong: a byte that starts no
well-formed sequence is reported by itself, and reading goes on after it.
-/

namespace StringCatalog.Text

def isContinuation (b : UInt8) : Bool := 0x80 ≤ b && b ≤ 0xbf

/-- The six bits that a continuation byte carries. -/
def continuationBits (b : UInt8) : Nat := b.toNat % 64

/-- The character of the sequence that starts with `b`, and the number of bytes after `b` that it
takes; overlong forms and surrogates are not well-formed. -/
def sequence? (b : UInt8) (rest : List UInt8) : Option (Char × Nat) :=
  if b < 0x80 then some (Char.ofNat b.toNat, 0)
  else if 0xc2 ≤ b && b ≤ 0xdf then
    match rest with
    | c :: _ =>
      if isContinuation c then
        some (Char.ofNat (b.toNat % 32 * 64 + continuationBits c), 1)
      else none
    | _ => none
  else if 0xe0 ≤ b && b ≤ 0xef then
    match rest with
    | c :: d :: _ =>
      let n := b.toNat % 16 * 4096 + continuationBits c * 64 + continuationBits d
      if isContinuation c && isContinuation d && 0x800 ≤ n && !(0xd800 ≤ n && n ≤ 0xdfff) then
        some (Char.ofNat n, 2)
      else none
    | _ => none
  else if 0xf0 ≤ b && b ≤ 0xf4 then
    match rest with
    | c :: d :: e :: _ =>
      let n := b.toNat % 8 * 262144 + continuationBits c * 4096 + continuationBits d * 64 +
        continuationBits e
      if isContinuation c && isContinuation d && isContinuation e && 0x10000 ≤ n && n ≤ 0x10ffff
      then some (Char.ofNat n, 3)
      else none
    | _ => none
  else none

/-- Reads bytes after passing over `skip` of them; `none` stands for a byte that is wrong. -/
def decodeAfter : (skip : Nat) → List UInt8 → List (Option Char)
  | _, [] => []
  | skip + 1, _ :: rest => decodeAfter skip rest
  | 0, b :: rest =>
    match sequence? b rest with
    | some (c, taken) => some c :: decodeAfter taken rest
    | none => none :: decodeAfter 0 rest

/-- The characters of a byte sequence, `none` for every wrong byte. -/
def decodeUtf8 (bytes : List UInt8) : List (Option Char) := decodeAfter 0 bytes

end StringCatalog.Text
