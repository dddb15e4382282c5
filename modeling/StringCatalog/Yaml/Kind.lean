import StringCatalog.Text.LetterCase
import StringCatalog.Text.Split
import StringCatalog.Text.Word
import StringCatalog.Value
import StringCatalog.Yaml.Node

/-!
# StringCatalog.Yaml.Kind

The kinds of nodes and the values of scalars.  A plain scalar has the kind that
its text shows: `yes` is a boolean, `010` and `1:30` are integers in base eight
and sixty, `1e3` is a text.

* `plainKind` — the kind of a plain scalar;
* `scalarValue` — the value of a scalar of some kind.
-/

namespace StringCatalog.Yaml

open Number Text

/-- The kinds of nodes. -/
inductive Kind where
  | null
  | bool
  | int
  | float
  | binary
  | moment
  | text
  | sequence
  | mapping
  | set
  | orderedMap
  | pairs
  | merge
  | default
  | unknown
  deriving DecidableEq, Repr

/-- The kinds that have tags in the core namespace. -/
def coreKinds : List (String × Kind) := [
  ("null", .null), ("bool", .bool), ("int", .int), ("float", .float), ("binary", .binary),
  ("timestamp", .moment), ("str", .text), ("seq", .sequence), ("map", .mapping), ("set", .set),
  ("omap", .orderedMap), ("pairs", .pairs), ("merge", .merge), ("value", .default)]

def kindOfTag (tag : String) : Kind :=
  match coreKinds.find? fun e => coreNamespace ++ e.1 = tag with
  | some e => e.2
  | none => .unknown

/-! ## Plain scalars -/

def boolWords : List (String × Bool) := [
  ("yes", true), ("no", false), ("true", true), ("false", false), ("on", true), ("off", false)]

/-- Whether a text is a word in lower case, in upper case, or with a capital letter. -/
def isCasing (word s : String) : Bool := s = word || s = word.toUpper || s = word.capitalize

/-- What follows a sign. -/
def unsigned : List Char → List Char
  | '-' :: rest | '+' :: rest => rest
  | cs => cs

def isDigitOrUnderscore (c : Char) : Bool := c.isDigit || c = '_'

/-- Whether characters are a digit below sixty with at most two places. -/
def isSixtieth : List Char → Bool
  | [a] => a.isDigit
  | [a, b] => '0' ≤ a && a ≤ '5' && b.isDigit
  | _ => false

/-- Whether characters are an integer in one of the notations. -/
def isIntText (cs : List Char) : Bool :=
  let body := unsigned cs
  match body with
  | '0' :: 'b' :: rest => !rest.isEmpty && rest.all fun c => c = '0' || c = '1' || c = '_'
  | '0' :: 'x' :: rest =>
    !rest.isEmpty && rest.all fun c => c = '_' || (readDigits? 16 [c]).isSome
  | '0' :: rest => rest.all fun c => c = '_' || ('0' ≤ c && c ≤ '7')
  | c :: _ =>
    ('1' ≤ c && c ≤ '9') &&
      match splitChars ':' body with
      | first :: sixtieths => first.all isDigitOrUnderscore && sixtieths.all isSixtieth
      | [] => false
  | [] => false

/-- Whether characters are nothing or an exponent, which needs a sign. -/
def isExponent : List Char → Bool
  | [] => true
  | e :: s :: d :: ds =>
    (e = 'e' || e = 'E') && (s = '-' || s = '+') && (d :: ds).all Char.isDigit
  | _ => false

/-- Whether characters are a number with a point. -/
def isFloatText (cs : List Char) : Bool :=
  let body := unsigned cs
  let isBare := body.length = cs.length
  let special (names : List String) (rest : List Char) : Bool :=
    names.any fun n => n.toList = rest
  match body with
  | '.' :: rest =>
    special ["inf", "Inf", "INF"] rest ||
      (isBare && (special ["nan", "NaN", "NAN"] rest ||
        match rest with
        | d :: ds => d.isDigit && isExponent (ds.dropWhile isDigitOrUnderscore)
        | [] => false))
  | d :: _ =>
    d.isDigit &&
      let whole := body.takeWhile (· ≠ '.')
      match body.dropWhile (· ≠ '.') with
      | '.' :: fraction =>
        if whole.contains ':' then
          match splitChars ':' whole with
          | first :: sixtieths =>
            first.all isDigitOrUnderscore && sixtieths.all isSixtieth &&
              fraction.all isDigitOrUnderscore
          | [] => false
        else
          whole.all isDigitOrUnderscore && isExponent (fraction.dropWhile isDigitOrUnderscore)
      | _ => false
  | [] => false

/-! ## Dates and times -/

/-- The written parts of a date, with a time of day and a distance to universal time if they are
there. -/
structure WrittenMoment where
  date : Date
  clock : Option Clock
  zone : Option Int
  deriving Repr

/-- Reads a number of at least `least` and at most `most` digits. -/
def readCount? (least most : Nat) (cs : List Char) : Option (Nat × List Char) :=
  let ds := (cs.take most).takeWhile Char.isDigit
  if ds.length < least then none
  else (readDigits? 10 ds).map fun n => (n, cs.drop ds.length)

def expectChar? (c : Char) : List Char → Option (List Char)
  | d :: rest => if d = c then some rest else none
  | [] => none

def isPad (c : Char) : Bool := c = ' ' || c = '\t'

/-- Reads a distance to universal time, in minutes. -/
def readZone? (cs : List Char) : Option (Option Int) :=
  match cs.dropWhile isPad with
  | [] => if cs.isEmpty then some none else none
  | ['Z'] => some (some 0)
  | s :: rest =>
    if s = '-' || s = '+' then do
      let (hours, rest) ← readCount? 1 2 rest
      let minutes ← match rest with
        | [] => some 0
        | ':' :: rest => do
          let (m, rest) ← readCount? 2 2 rest
          if rest.isEmpty then some m else none
        | _ => none
      let total : Int := Int.ofNat (hours * 60 + minutes)
      pure (some (if s = '-' then -total else total))
    else none

/-- Reads the part of a second behind its point, as millionths. -/
def readFraction (cs : List Char) : Nat × List Char :=
  let ds := cs.takeWhile Char.isDigit
  let six := ds.take 6
  ((readDigits? 10 (six ++ List.replicate (6 - six.length) '0')).getD 0, cs.drop ds.length)

/-- Reads a time of day and a distance to universal time. -/
def readClock? (cs : List Char) : Option (Clock × Option Int) := do
  let (hour, rest) ← readCount? 1 2 cs
  let (minute, rest) ← readCount? 2 2 (← expectChar? ':' rest)
  let (second, rest) ← readCount? 2 2 (← expectChar? ':' rest)
  let (microsecond, rest) := match rest with
    | '.' :: rest => readFraction rest
    | _ => (0, rest)
  pure (⟨hour, minute, second, microsecond⟩, ← readZone? rest)

/-- Reads a date, and a time of day behind it if there is one. -/
def readMoment? (cs : List Char) : Option WrittenMoment := do
  let (year, rest) ← readCount? 4 4 cs
  let (month, rest) ← readCount? 1 2 (← expectChar? '-' rest)
  let (day, rest) ← readCount? 1 2 (← expectChar? '-' rest)
  let date : Date := ⟨year, month, day⟩
  match rest with
  | [] => pure ⟨date, none, none⟩
  | c :: after =>
    let start := if c = 'T' || c = 't' then some after
      else if isPad c then some (after.dropWhile isPad) else none
    let (clock, zone) ← readClock? (← start)
    pure ⟨date, some clock, zone⟩

/-- Whether characters are a date, which needs all its digits when it stands alone, or a moment. -/
def isMomentText (cs : List Char) : Bool :=
  match readMoment? cs with
  | some ⟨_, none, _⟩ => cs.length = 10
  | some _ => true
  | none => false

/-- The kind that the text of a plain scalar shows. -/
def plainKind (s : String) : Kind :=
  if boolWords.any fun w => isCasing w.1 s then .bool
  else if isFloatText s.toList then .float
  else if isIntText s.toList then .int
  else if s = "<<" then .merge
  else if s = "~" || isCasing "null" s || s.isEmpty then .null
  else if isMomentText s.toList then .moment
  else if s = "=" then .default
  else .text

/-! ## Values -/

/-- Whether a character is space around a number. -/
def isSpaceChar (c : Char) : Bool :=
  let n := c.toNat
  (0x9 ≤ n && n ≤ 0xd) || (0x1c ≤ n && n ≤ 0x20) || n = 0x85 || n = 0xa0 || n = 0x1680 ||
    (0x2000 ≤ n && n ≤ 0x200a) || n = 0x2028 || n = 0x2029 || n = 0x202f || n = 0x205f || n = 0x3000

/-- Characters without space around them. -/
def trimmed (cs : List Char) : List Char :=
  ((cs.dropWhile isSpaceChar).reverse.dropWhile isSpaceChar).reverse

/-- What follows the mark of a base, if it is there. -/
def dropBaseMark (base : Nat) (cs : List Char) : List Char :=
  let mark := if base = 2 then 'b' else if base = 8 then 'o' else 'x'
  match cs with
  | '0' :: c :: rest => if base ≠ 10 && c.toLower = mark then rest else cs
  | _ => cs

/-- The integer that characters write in a base, with digits of any script. -/
def readInt (base : Nat) (cs : List Char) : Result Int :=
  let body := (trimmed cs).map asciiDigit
  let ds := dropBaseMark base (unsigned body)
  if base = 10 && ds.length > Value.maxDigits && ds.all Char.isDigit then
    .error (.tooManyDigits ds.length)
  else
    match ds, readDigits? base ds with
    | _ :: _, some n => .ok (if body.head? = some '-' then -(Int.ofNat n) else Int.ofNat n)
    | _, _ => .error (.notInteger base (String.ofList cs))

/-- The value of parts in base sixty, the last one first. -/
def inSixties (parts : List Int) : Int := parts.foldr (fun d acc => d + 60 * acc) 0

def intValue (s : String) : Result Int := do
  let cs := s.toList.filter (· ≠ '_')
  let body := unsigned cs
  let n ← match cs, body with
    | [], _ | _, [] => .error .emptyNumber
    | _, ['0'] => .ok 0
    | _, '0' :: 'b' :: rest => readInt 2 rest
    | _, '0' :: 'x' :: rest => readInt 16 rest
    | _, '0' :: _ => readInt 8 body
    | _, _ =>
      if body.contains ':' then do
        .ok (inSixties (← (splitChars ':' body).mapM (readInt 10)).reverse)
      else readInt 10 body
  .ok (if cs.head? = some '-' then -n else n)

/-- The number that characters write, with digits of any script. -/
def readFloat (cs : List Char) : Result Binary64 :=
  match Binary64.ofText? (String.ofList ((trimmed cs).map asciiDigit)) with
  | some x => .ok x
  | none => .error (.notNumber (String.ofList cs))

/-- The sum of parts in base sixty, the last one first, rounded at every step. -/
def sumInSixties : (unit : Int) → (sum : Binary64) → List Binary64 → Binary64
  | _, sum, [] => sum
  | unit, sum, x :: xs =>
    let scale := (Binary64.ofInt? unit).getD (.infinite false)
    sumInSixties (unit * 60) (sum.add (x.mul scale)) xs

def floatValue (s : String) : Result Binary64 := do
  let cs := (lower (String.ofList (s.toList.filter (· ≠ '_')))).toList
  let body := unsigned cs
  if cs.isEmpty then .error .emptyNumber
  else if body = ".nan".toList then .ok .nan
  else
    let x ←
      if body = ".inf".toList then .ok (Binary64.infinite false)
      else if body.contains ':' then do
        .ok (sumInSixties 1 (.zero false) (← (splitChars ':' body).mapM readFloat).reverse)
      else readFloat body
    .ok (if cs.head? = some '-' then x.negate else x)

def isLeapYear (y : Nat) : Bool := y % 4 = 0 && (y % 100 ≠ 0 || y % 400 = 0)

def daysOf (year month : Nat) : Nat :=
  if month = 2 then (if isLeapYear year then 29 else 28)
  else if [4, 6, 9, 11].contains month then 30 else 31

def spanText (minutes : Int) : String :=
  let days := minutes / 1440
  let seconds := (minutes % 1440) * 60
  let parts := (if days = 0 then [] else ["days=" ++ toString days]) ++
    (if seconds = 0 then [] else ["seconds=" ++ toString seconds])
  "datetime.timedelta(" ++ (if parts.isEmpty then "0" else ", ".intercalate parts) ++ ")"

/-- The first part of a moment that is out of its range. -/
def outOfRange? (m : WrittenMoment) : Option DateField :=
  let d := m.date
  let zone := m.zone.bind fun z => if z ≤ -1440 || 1440 ≤ z then some (.zone (spanText z)) else none
  let day := if d.year = 0 then some (.year 0)
    else if d.month = 0 || d.month > 12 then some .month
    else if d.day = 0 || d.day > daysOf d.year d.month then some .day else none
  let clock := m.clock.bind fun t => if t.hour > 23 then some .hour
    else if t.minute > 59 then some .minute else if t.second > 59 then some .second else none
  (zone.or day).or clock

def momentValue (s : String) : Result Value :=
  match readMoment? s.toList with
  | none => .error .notMoment
  | some m =>
    match outOfRange? m with
    | some field => .error (.outOfRange field)
    | none =>
      match m.clock with
      | none => .ok (.date m.date)
      | some t => .ok (.moment m.date t m.zone)

/-- The six bits that a character of a binary scalar stands for. -/
def sextet? (c : Char) : Option Nat :=
  if 'A' ≤ c && c ≤ 'Z' then some (c.toNat - 'A'.toNat)
  else if 'a' ≤ c && c ≤ 'z' then some (c.toNat - 'a'.toNat + 26)
  else if c.isDigit then some (c.toNat - '0'.toNat + 52)
  else if c = '+' then some 62 else if c = '/' then some 63 else none

/-- The bytes of a binary scalar.  `place` counts the characters of a group of four, `left` are bits
that wait for the next one, and `pads` counts the padding; other characters are passed over. -/
def binaryBytes (place left pads : Nat) : List Char → Result (List UInt8)
  | [] => if place = 0 then .ok [] else malformed
  | c :: rest =>
    if c = '=' then
      if place ≥ 2 && place + pads + 1 ≥ 4 then .ok [] else
        binaryBytes place left (if place ≥ 2 then pads + 1 else pads) rest
    else
      match sextet? c with
      | none => binaryBytes place left pads rest
      | some n =>
        match place with
        | 0 => binaryBytes 1 n 0 rest
        | 1 => (binaryBytes 2 (n % 16) 0 rest).map ((left * 4 + n / 16).toUInt8 :: ·)
        | 2 => (binaryBytes 3 (n % 4) 0 rest).map ((left * 16 + n / 4).toUInt8 :: ·)
        | _ => (binaryBytes 0 0 0 rest).map ((left * 64 + n).toUInt8 :: ·)

def scalarValue (kind : Kind) (s : String) : Result Value :=
  match kind with
  | .null => .ok .null
  | .bool =>
    let word := lower s
    match boolWords.find? fun w => w.1 = word with
    | some w => .ok (.bool w.2)
    | none => .error (.notBoolean word)
  | .int => (intValue s).map .int
  | .float => (floatValue s).map .float
  | .binary =>
    if s.toList.all fun c => c.toNat < 0x80 then (binaryBytes 0 0 0 s.toList).map .bytes
    else malformed
  | .moment => momentValue s
  | .text => .ok (.text s)
  | _ => malformed

end StringCatalog.Yaml
