import StringCatalog.Number.Decimal
import StringCatalog.OrderedMap
import StringCatalog.Text.Quoted

/-!
# StringCatalog.Value

Values whose type is known only when they arrive: settings from a file,
arguments of a template, keys of a lookup.

* `Value.sameKey` — two keys name one entry of a map; numbers are compared by
  value, so that `1`, `true` and `1.0` are one key;
* `Value.text?`, `Value.quoted?` — the text of a value by itself and inside
  other text; there is none when an integer has more than `maxDigits` digits.
-/

namespace StringCatalog

open Number Text

/-- A day of the calendar. -/
structure Date where
  year : Nat
  month : Nat
  day : Nat
  deriving DecidableEq, Repr

/-- A time of day, to the microsecond. -/
structure Clock where
  hour : Nat
  minute : Nat
  second : Nat
  microsecond : Nat
  deriving DecidableEq, Repr

/-- A value.  A moment may carry its distance to universal time in minutes. -/
inductive Value where
  | null
  | bool (b : Bool)
  | int (i : Int)
  | float (x : Binary64)
  | text (s : String)
  | bytes (bs : List UInt8)
  | date (d : Date)
  | moment (d : Date) (t : Clock) (zone : Option Int)
  | list (items : List Value)
  | tuple (items : List Value)
  | set (items : List Value)
  | map (entries : List (Value × Value))
  deriving Inhabited

namespace Value

/-- The name of a value's type, as messages print it. -/
def typeName : Value → String
  | .null => "NoneType"
  | .bool _ => "bool"
  | .int _ => "int"
  | .float _ => "float"
  | .text _ => "str"
  | .bytes _ => "bytes"
  | .date _ => "datetime.date"
  | .moment .. => "datetime.datetime"
  | .list _ => "list"
  | .tuple _ => "tuple"
  | .set _ => "set"
  | .map _ => "dict"

/-- Whether a value counts as absent where a default stands ready. -/
def isFalsy : Value → Bool
  | .null => true
  | .bool b => !b
  | .int i => i = 0
  | .float x => x.equalsInt 0
  | .text s => s.isEmpty
  | .bytes bs => bs.isEmpty
  | .list items | .tuple items | .set items => items.isEmpty
  | .map entries => entries.isEmpty
  | .date _ | .moment .. => false

/-! ## Keys -/

/-- Equality of two numbers by value; `none` when one of the values is no number. -/
def sameNumber? : Value → Value → Option Bool
  | .float x, .float y => some (x.equals y)
  | .float x, .int i | .int i, .float x => some (x.equalsInt i)
  | .float x, .bool b | .bool b, .float x => some (x.equalsInt (if b then 1 else 0))
  | .int i, .int j => some (i = j)
  | .int i, .bool b | .bool b, .int i => some (i = if b then 1 else 0)
  | .bool a, .bool b => some (a = b)
  | _, _ => none

mutual

/-- Whether two keys name the same entry. -/
def sameKey : Value → Value → Bool
  | .null, .null => true
  | .text s, .text t => s = t
  | .bytes s, .bytes t => s = t
  | .date d, .date d' => d = d'
  | .moment d t z, .moment d' t' z' => d = d' && t = t' && z = z'
  | .tuple xs, .tuple ys => sameKeys xs ys
  | x, y => (sameNumber? x y).getD false

/-- Whether two rows of keys agree one by one. -/
def sameKeys : List Value → List Value → Bool
  | [], [] => true
  | x :: xs, y :: ys => sameKey x y && sameKeys xs ys
  | _, _ => false

end

instance : BEq Value := ⟨sameKey⟩

mutual

/-- The type that keeps a value from being a key, if there is one. -/
def unhashable? : Value → Option String
  | .list _ => some "list"
  | .set _ => some "set"
  | .map _ => some "dict"
  | .tuple items => unhashableIn? items
  | _ => none

/-- The first type in a row that keeps it from being a key. -/
def unhashableIn? : List Value → Option String
  | [] => none
  | x :: xs => (unhashable? x).or (unhashableIn? xs)

end

/-- A text is a key. -/
@[simp] theorem unhashable?_text (s : String) : unhashable? (.text s) = none := rfl

/-- Two texts name the same entry when they are equal. -/
@[simp] theorem text_beq_text (s t : String) : (Value.text s == Value.text t) = (s == t) := by
  show sameKey (.text s) (.text t) = (s == t)
  simp only [sameKey, Bool.beq_eq_decide_eq]

/-! ## Text -/

/-- The most digits that an integer's text may have. -/
def maxDigits : Nat := 4300

/-- The text of an integer, if it does not have too many digits. -/
def intText? (i : Int) : Option String :=
  let ds := digitsOf i.natAbs
  if ds.length > maxDigits then none
  else some (String.ofList (if i < 0 then '-' :: ds else ds))

def padded (width n : Nat) : String := String.ofList (padZeros width (digitsOf n))

def plain (n : Nat) : String := String.ofList (digitsOf n)

/-- The distance to universal time. -/
def zoneText (minutes : Int) : String :=
  (if minutes < 0 then "-" else "+") ++ padded 2 (minutes.natAbs / 60) ++ ":" ++
    padded 2 (minutes.natAbs % 60)

def dateText (d : Date) : String :=
  padded 4 d.year ++ "-" ++ padded 2 d.month ++ "-" ++ padded 2 d.day

def momentText (d : Date) (t : Clock) (zone : Option Int) : String :=
  dateText d ++ " " ++ padded 2 t.hour ++ ":" ++ padded 2 t.minute ++ ":" ++ padded 2 t.second ++
    (if t.microsecond = 0 then "" else "." ++ padded 6 t.microsecond) ++
    (match zone with | some z => zoneText z | none => "")

def dateFields (d : Date) : List String := [plain d.year, plain d.month, plain d.day]

/-- The fields of a time of day; seconds are dropped when they and what follows are zero. -/
def clockFields (t : Clock) : List String :=
  [plain t.hour, plain t.minute] ++
    (if t.microsecond ≠ 0 then [plain t.second, plain t.microsecond]
     else if t.second ≠ 0 then [plain t.second] else [])

/-- The distance to universal time as a value of its own. -/
def zoneField (minutes : Int) : String :=
  if minutes = 0 then "tzinfo=datetime.timezone.utc"
  else
    let days := if minutes < 0 then "days=-1, " else ""
    let seconds := ((minutes % 1440) * 60).toNat
    "tzinfo=datetime.timezone(datetime.timedelta(" ++ days ++ "seconds=" ++ plain seconds ++ "))"

/-- A moment inside other text. -/
def quotedMoment (d : Date) (t : Clock) (zone : Option Int) : String :=
  let fields := dateFields d ++ clockFields t ++
    (match zone with | some z => [zoneField z] | none => [])
  "datetime.datetime(" ++ ", ".intercalate fields ++ ")"

/-- Bytes inside other text: printable ASCII as it is, all else as escapes. -/
def quotedBytes (bs : List UInt8) : String :=
  let cs := bs.map fun b => Char.ofNat b.toNat
  let q := quoteFor cs
  let body := cs.flatMap fun c =>
    if c = q || c = '\\' then ['\\', c]
    else if 0x20 ≤ c.toNat && c.toNat < 0x7f then [c] else numericEscape c
  String.ofList ('b' :: q :: body ++ [q])

mutual

/-- The text of a value inside other text, where texts stand between quotes. -/
def quoted? : Value → Option String
  | .null => some "None"
  | .bool b => some (if b then "True" else "False")
  | .int i => intText? i
  | .float x => some x.text
  | .text s => some (quoted s)
  | .bytes bs => some (quotedBytes bs)
  | .date d => some ("datetime.date(" ++ ", ".intercalate (dateFields d) ++ ")")
  | .moment d t zone => some (quotedMoment d t zone)
  | .list items => (quotedItems? items).map fun ts => "[" ++ ", ".intercalate ts ++ "]"
  | .tuple items => (quotedItems? items).map fun ts =>
    "(" ++ ", ".intercalate ts ++ (if ts.length = 1 then ",)" else ")")
  | .set items => (quotedItems? items).map fun ts =>
    if ts.isEmpty then "set()" else "\x7b" ++ ", ".intercalate ts ++ "\x7d"
  | .map entries => (quotedEntries? entries).map fun ts => "\x7b" ++ ", ".intercalate ts ++ "\x7d"

def quotedItems? : List Value → Option (List String)
  | [] => some []
  | x :: xs => do
    let t ← quoted? x
    let ts ← quotedItems? xs
    pure (t :: ts)

def quotedEntries? : List (Value × Value) → Option (List String)
  | [] => some []
  | (k, v) :: es => do
    let t ← quoted? k
    let u ← quoted? v
    let ts ← quotedEntries? es
    pure ((t ++ ": " ++ u) :: ts)

end

/-- The text of a value by itself. -/
def text? : Value → Option String
  | .text s => some s
  | .date d => some (dateText d)
  | .moment d t zone => some (momentText d t zone)
  | v => quoted? v

/-- What is said of an integer that has too many digits for a text. -/
def digitLimitMessage : String :=
  "Exceeds the limit (4300 digits) for integer string conversion; " ++
    "use sys.set_int_max_str_digits() to increase the limit"

end Value

end StringCatalog
