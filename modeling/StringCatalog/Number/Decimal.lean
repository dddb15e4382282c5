import StringCatalog.Number.Binary64

/-!
# StringCatalog.Number.Decimal

Decimal texts of numbers: a fixed number of places, a fixed number of digits
with an exponent, and the fewest digits that read back as the same number.
All of them are exact: the value is a quotient of natural numbers and is
rounded once.
-/

namespace StringCatalog.Number

def digitsOf (n : Nat) : List Char := Nat.toDigits 10 n

/-- Digits with zeros in front up to a length. -/
def padZeros (width : Nat) (ds : List Char) : List Char :=
  List.replicate (width - ds.length) '0' ++ ds

/-- The least `j ≥ start` within `fuel` steps for which `num · 10^j ≥ den`. -/
def scaleUp (num den : Nat) : (fuel start : Nat) → Nat
  | 0, j => j
  | fuel + 1, j => if num * Nat.pow 10 j ≥ den then j else scaleUp num den fuel (j + 1)

/-- The decimal exponent `k` of a positive quotient: `10^k ≤ num / den < 10^(k+1)`. -/
def leadingExponent (num den : Nat) : Int :=
  if num ≥ den then Int.ofNat (digitsOf (num / den)).length - 1
  else
    let steps := scaleUp num den (den.log2 + 2) ((den.log2 - num.log2 - 1) * 3 / 10)
    (-Int.ofNat steps)

/-- The quotient in units of `10^p`, rounded. -/
def roundAt (num den : Nat) (p : Int) : Nat :=
  if p ≥ 0 then roundDiv num (den * Nat.pow 10 p.toNat)
  else roundDiv (num * Nat.pow 10 (-p).toNat) den

/-- The first `count` significant digits and the exponent of the first one. -/
def significant (num den count : Nat) : Nat × Int :=
  if num = 0 then (0, 0)
  else
    let k := leadingExponent num den
    let d := roundAt num den (k + 1 - Int.ofNat count)
    if d = Nat.pow 10 count then (Nat.pow 10 (count - 1), k + 1) else (d, k)

/-! ## The three shapes -/

/-- A fixed number of places; `dot` keeps the point when there are none. -/
def fixedText (num den places : Nat) (dot : Bool) : List Char :=
  let ds := padZeros (places + 1) (digitsOf (roundAt num den (-(Int.ofNat places))))
  let whole := ds.take (ds.length - places)
  let fraction := ds.drop (ds.length - places)
  if places = 0 then whole ++ (if dot then ['.'] else []) else whole ++ '.' :: fraction

/-- An exponent: a mark, a sign and at least two digits. -/
def exponentText (k : Int) : List Char :=
  'e' :: (if k < 0 then '-' else '+') :: padZeros 2 (digitsOf k.natAbs)

/-- Digits with a point after the first one; `dot` keeps the point when it is the last character. -/
def pointed (ds : List Char) (dot : Bool) : List Char :=
  match ds with
  | [] => []
  | [d] => if dot then [d, '.'] else [d]
  | d :: rest => d :: '.' :: rest

/-- One digit, a number of places and an exponent. -/
def scientificText (num den places : Nat) (dot : Bool) : List Char :=
  let (d, k) := significant num den (places + 1)
  pointed (padZeros (places + 1) (digitsOf d)) dot ++ exponentText k

/-- Drops zeros at the end of a fraction, and the point with them. -/
def trimFraction (ds : List Char) : List Char :=
  if ds.contains '.' then
    let kept := ds.reverse.dropWhile (· = '0')
    (if kept.head? = some '.' then kept.drop 1 else kept).reverse
  else ds

/-- A number of significant digits, positional from `10^-4` up to that number of digits and with an
exponent otherwise; `full` keeps the point and the zeros at the end. -/
def generalText (num den count : Nat) (full : Bool) : List Char :=
  let count := if count = 0 then 1 else count
  let (d, k) := significant num den count
  if -4 ≤ k && k < Int.ofNat count then
    let body := fixedText num den (Int.ofNat count - 1 - k).toNat full
    if full then body else trimFraction body
  else
    let body := pointed (padZeros count (digitsOf d)) full
    (if full then body else trimFraction body) ++ exponentText k

/-! ## The fewest digits -/

/-- Whether `c · 10^p` is read back as `m · 2^e`: it lies in the interval of values that round to
it, whose ends count when the mantissa is even. -/
def readsBack (m : Nat) (e : Int) (c : Nat) (p : Int) : Bool :=
  -- in quarters of the last place the interval is `4m - below` to `4m + 2`
  let below := if m = Nat.pow 2 52 && e > Binary64.minExponent then 1 else 2
  let up (k : Int) : Nat := k.toNat
  let left := 4 * c * Nat.pow 10 (up p) * Nat.pow 2 (up (-e))
  let unit := Nat.pow 10 (up (-p)) * Nat.pow 2 (up e)
  if m % 2 = 0 then (4 * m - below) * unit ≤ left && left ≤ (4 * m + 2) * unit
  else (4 * m - below) * unit < left && left < (4 * m + 2) * unit

/-- The first grid of at least `count` digits with a point that reads back, and of its two points
around the value the nearer one. -/
def shortestFrom (m : Nat) (e : Int) (num den : Nat) (k : Int) : (fuel count : Nat) → Nat × Int
  | 0, count => (roundAt num den (k + 1 - Int.ofNat count), k + 1 - Int.ofNat count)
  | fuel + 1, count =>
    let p := k + 1 - Int.ofNat count
    let near := roundAt num den p
    let (n, d) := if p ≥ 0 then (num, den * Nat.pow 10 p.toNat)
      else (num * Nat.pow 10 (-p).toNat, den)
    let far := if near * d > n then near - 1 else near + 1
    if readsBack m e near p then (near, p)
    else if readsBack m e far p then (far, p)
    else shortestFrom m e num den k fuel (count + 1)

/-- The fewest digits that read back as `m · 2^e`, without zeros at the end, and the power of ten of
the last one. -/
def shortest (m : Nat) (e : Int) : List Char × Int :=
  let (num, den) := if e ≥ 0 then (m * Nat.pow 2 e.toNat, 1) else (m, Nat.pow 2 (-e).toNat)
  let (d, p) := shortestFrom m e num den (leadingExponent num den) 17 1
  let ds := digitsOf d
  let kept := (ds.reverse.dropWhile (· = '0')).reverse
  (kept, p + Int.ofNat (ds.length - kept.length))

/-- Digits as a whole text: positional with a fraction from `10^-4` to below `10^16`, and with an
exponent otherwise. -/
def layout (ds : List Char) (p : Int) : List Char :=
  let k := p + Int.ofNat ds.length - 1
  if k < -4 || 16 ≤ k then pointed ds false ++ exponentText k
  else if k < 0 then '0' :: '.' :: List.replicate (-k - 1).toNat '0' ++ ds
  else
    let whole := k.toNat + 1
    if ds.length ≤ whole then ds ++ List.replicate (whole - ds.length) '0' ++ ['.', '0']
    else ds.take whole ++ '.' :: ds.drop whole

/-- The text of a number: the fewest digits that read back. -/
def Binary64.text : Binary64 → String
  | .nan => "nan"
  | .infinite s => if s then "-inf" else "inf"
  | .finite s m e =>
    let body := if m = 0 then ['0', '.', '0'] else
      let (ds, p) := shortest m e
      layout ds p
    String.ofList (if s then '-' :: body else body)

/-! ## Hexadecimal -/

/-- The hexadecimal text of a number: one digit, thirteen places and a binary exponent. -/
def Binary64.hexText : Binary64 → String
  | .nan => "nan"
  | .infinite s => if s then "-inf" else "inf"
  | .finite s m e =>
    let body :=
      if m = 0 then "0x0.0p+0".toList
      else
        let places := padZeros 13 (Nat.toDigits 16 (m % Nat.pow 2 52))
        let lead := if m < Nat.pow 2 52 then '0' else '1'
        let k := e + 52
        ['0', 'x', lead, '.'] ++ places ++
          'p' :: (if k < 0 then '-' else '+') :: digitsOf k.natAbs
    String.ofList (if s then '-' :: body else body)

/-! ## Reading -/

/-- The value of digits in a base up to sixteen, if they all are digits of it. -/
def readDigits? (base : Nat) (ds : List Char) : Option Nat :=
  ds.foldl (fun acc c =>
    let v := if c.isDigit then c.toNat - '0'.toNat
      else if 'a' ≤ c && c ≤ 'f' then c.toNat - 'a'.toNat + 10
      else if 'A' ≤ c && c ≤ 'F' then c.toNat - 'A'.toNat + 10 else base
    acc.bind fun n => if v < base then some (n * base + v) else none) (some 0)

def readSign : List Char → Bool × List Char
  | '-' :: rest => (true, rest)
  | '+' :: rest => (false, rest)
  | rest => (false, rest)

/-- Reads an exponent mark with its digits; nothing is read as the exponent zero. -/
def readExponent? : List Char → Option Int
  | [] => some 0
  | c :: rest =>
    if c = 'e' || c = 'E' then
      let (s, ds) := readSign rest
      if ds.isEmpty then none
      else (readDigits? 10 ds).map fun n => if s then -(Int.ofNat n) else Int.ofNat n
    else none

/-- The decimal number of a text: digits with an optional point, sign and exponent, or the names of
the infinities and of no number. -/
def Binary64.ofText? (s : String) : Option Binary64 :=
  let (negative, rest) := readSign s.toList
  let name := String.ofList (rest.map Char.toLower)
  if name = "inf" || name = "infinity" then some (.infinite negative)
  else if name = "nan" then some .nan
  else
    let whole := rest.takeWhile Char.isDigit
    let rest := rest.dropWhile Char.isDigit
    let (fraction, rest) := match rest with
      | '.' :: rest => (rest.takeWhile Char.isDigit, rest.dropWhile Char.isDigit)
      | rest => ([], rest)
    if whole.isEmpty && fraction.isEmpty then none
    else do
      let e ← readExponent? rest
      let n ← readDigits? 10 (whole ++ fraction)
      pure (Binary64.ofDecimal negative n (e - Int.ofNat fraction.length))

end StringCatalog.Number
