import StringCatalog.Number.Decimal
import StringCatalog.Template.Conversion
import StringCatalog.Text.LetterCase
import StringCatalog.Value

/-!
# StringCatalog.Template.Format

One value in the form that a conversion asks for: integers in three bases,
numbers in fixed, scientific, general and hexadecimal form, characters and
texts, with signs, prefixes and padding.

* `Refusal` — why a value has no such form, with its message;
* `format` — the form of a value.
-/

namespace StringCatalog.Template

open Number Text

/-- Why a value cannot be put in place of a conversion. -/
inductive Refusal where
  | needsInteger (letter : Char) (typeName : String)
  | needsNumber (letter : Char) (typeName : String)
  | needsCharacter (quoted : String)
  | unknownConversion (letter : Char)
  | widthTooBig
  | precisionTooBig
  | precisionTooLarge
  | characterOutOfRange
  | tooLargeForFloat
  | tooManyDigits
  deriving DecidableEq, Repr

/-- A conversion letter after its percent sign. -/
def percentLetter (c : Char) : String := String.ofList ['%', c]

def Refusal.message : Refusal → String
  | .needsInteger c t => percentLetter c ++ " needs an int, got " ++ t
  | .needsNumber c t => percentLetter c ++ " needs a number, got " ++ t
  | .needsCharacter q => "%c needs a character, got " ++ q
  | .unknownConversion c => "unknown conversion " ++ percentLetter c
  | .widthTooBig => "width too big"
  | .precisionTooBig => "precision too big"
  | .precisionTooLarge => "precision too large"
  | .characterOutOfRange => "%c arg not in range(0x110000)"
  | .tooLargeForFloat => "int too large to convert to float"
  | .tooManyDigits => Value.digitLimitMessage

/-! ## Layout -/

/-- How a form is laid out. -/
structure Layout where
  alternate : Bool
  left : Bool
  plus : Bool
  blank : Bool
  zeros : Bool
  width : Nat
  precision : Option Nat
  deriving DecidableEq, Repr

def maxWidth : Nat := Nat.pow 2 63 - 1

def maxPrecision : Nat := Nat.pow 2 31 - 1

/-- The largest precision of an integer, three below the largest of all. -/
def maxIntegerPrecision : Nat := maxPrecision - 3

/-- The number of written digits. -/
def countOf (ds : List Char) : Nat := (readDigits? 10 ds).getD 0

def Conversion.layout (c : Conversion) : Except Refusal Layout :=
  let width := countOf c.width
  let precision := c.precision.map countOf
  if width > maxWidth then .error .widthTooBig
  else if precision.any (· > maxPrecision) then .error .precisionTooBig
  else .ok {
    alternate := c.flags.contains '#', left := c.flags.contains '-',
    plus := c.flags.contains '+', blank := c.flags.contains ' ', zeros := c.flags.contains '0',
    width, precision }

namespace Layout

/-- Fills a text up to the width with spaces. -/
def fill (l : Layout) (body : List Char) : List Char :=
  let spaces := List.replicate (l.width - body.length) ' '
  if l.left then body ++ spaces else spaces ++ body

/-- Fills a number up to the width: with zeros between `lead` and `body`, or with spaces around. -/
def fillNumber (l : Layout) (lead body : List Char) : List Char :=
  if l.zeros && !l.left then
    lead ++ List.replicate (l.width - (lead.length + body.length)) '0' ++ body
  else l.fill (lead ++ body)

def sign (l : Layout) (negative : Bool) : List Char :=
  if negative then ['-'] else if l.plus then ['+'] else if l.blank then [' '] else []

end Layout

/-! ## Forms -/

def baseOf (letter : Char) : Nat :=
  if letter = 'o' then 8 else if letter = 'x' || letter = 'X' then 16 else 10

/-- What an integer conversion writes before the digits in its alternate form. -/
def basePrefix (letter : Char) : List Char :=
  if letter = 'o' then ['0', 'o'] else if letter = 'x' || letter = 'X' then ['0', 'x'] else []

/-- The upper case of ASCII letters, for conversions with a capital letter. -/
def capitalize (letter : Char) (cs : List Char) : List Char :=
  if letter.isUpper then cs.map Char.toUpper else cs

/-- An integer in the base of its conversion; only decimal texts have a limit of digits. -/
def formatInteger (letter : Char) (l : Layout) (i : Int) : Except Refusal (List Char) :=
  let ds := Nat.toDigits (baseOf letter) i.natAbs
  if l.precision.any (· > maxIntegerPrecision) then .error .precisionTooLarge
  else if baseOf letter = 10 && ds.length > Value.maxDigits then .error .tooManyDigits
  else
    let lead := l.sign (i < 0) ++ (if l.alternate then basePrefix letter else [])
    .ok (l.fillNumber (capitalize letter lead)
      (capitalize letter (padZeros (l.precision.getD 0) ds)))

/-- More significant digits than any number has. -/
def allDigits : Nat := 1100

/-- A number in fixed, scientific or general form, with six places or digits unless told
otherwise. -/
def formatNumber (letter : Char) (l : Layout) (x : Binary64) : List Char :=
  let places := l.precision.getD 6
  let body := match x with
    | .nan => "nan".toList
    | .infinite _ => "inf".toList
    | .finite _ m e =>
      let (num, den) := if e ≥ 0 then (m * Nat.pow 2 e.toNat, 1) else (m, Nat.pow 2 (-e).toNat)
      match letter.toLower with
      | 'f' => fixedText num den places l.alternate
      | 'e' => scientificText num den places l.alternate
      | _ => generalText num den (if l.alternate then places else min places allDigits) l.alternate
  l.fillNumber (l.sign x.isNegative) (capitalize letter body)

/-- A text, cut after as many characters as the precision allows. -/
def formatText (l : Layout) (cs : List Char) : List Char :=
  l.fill (match l.precision with | some n => cs.take n | none => cs)

/-- The number that a value is, if it is one. -/
def numberOf? : Value → Except Refusal (Option Binary64)
  | .float x => .ok (some x)
  | .int i =>
    match Binary64.ofInt? i with
    | some x => .ok (some x)
    | none => .error .tooLargeForFloat
  | _ => .ok none

/-- The character that a value stands for.  A lone surrogate is no character of a text here: its
code point gives U+0000. -/
def characterOf (v : Value) : Except Refusal (Option Char) :=
  match v with
  | .int i => .ok (if 0 ≤ i && i < 0x110000 then some (Char.ofNat i.toNat) else none)
  | .text s =>
    match s.toList with
    | [c] => .ok (some c)
    | _ => .error (.needsCharacter (quoted s))
  | v =>
    match v.quoted? with
    | some q => .error (.needsCharacter q)
    | none => .error .tooManyDigits

/-- The form of a value that a conversion asks for. -/
def format (c : Conversion) (v : Value) : Except Refusal (List Char) :=
  if "diuoxX".toList.contains c.letter then
    match v with
    | .int i => do formatInteger c.letter (← c.layout) i
    | v => .error (.needsInteger c.letter v.typeName)
  else if "eEfFgG".toList.contains c.letter then
    match v with
    | .int _ | .float _ => do
      let l ← c.layout
      match ← numberOf? v with
      | some x => .ok (formatNumber c.letter l x)
      | none => .error (.needsNumber c.letter v.typeName)
    | v => .error (.needsNumber c.letter v.typeName)
  else if c.letter = 'a' || c.letter = 'A' then do
    match ← numberOf? v with
    | some x => .ok (formatText (← c.layout) (capitalize c.letter x.hexText.toList))
    | none => .error (.needsNumber c.letter v.typeName)
  else if c.letter = 'c' then do
    let character ← characterOf v
    let l ← c.layout
    match character with
    | some d => .ok (l.fill [d])
    | none => .error .characterOutOfRange
  else if c.letter = 's' || c.letter = 'S' then
    match v.text? with
    | none => .error .tooManyDigits
    | some t => do
      .ok (formatText (← c.layout) (if c.letter = 'S' then upper t else t).toList)
  else .error (.unknownConversion c.letter)

end StringCatalog.Template
