import StringCatalog.Number.Rounding

/-!
# StringCatalog.Number.Binary64

Double-precision numbers as exact values: a sign, a mantissa below `2^53` and a
power of two, or an infinity, or no number.  Everything is computed on natural
numbers, and the one rounding, `Binary64.round`, goes to the nearest number,
ties to the even mantissa.
-/

namespace StringCatalog.Number

/-- A double-precision number.  `finite s m e` is `±m · 2^e`; of all ways to write a number
`Binary64.round` picks the one with the largest mantissa below `2^53`, and no exponent is below
`-1074`. -/
inductive Binary64 where
  | finite (negative : Bool) (mantissa : Nat) (exponent : Int)
  | infinite (negative : Bool)
  | nan
  deriving DecidableEq, Repr

namespace Binary64

def minExponent : Int := -1074

def maxExponent : Int := 971

def zero (negative : Bool) : Binary64 := .finite negative 0 minExponent

/-- A quotient divided by a power of two, as a numerator and a denominator. -/
def scaled (num den : Nat) (e : Int) : Nat × Nat :=
  if e ≥ 0 then (num, den * Nat.pow 2 e.toNat) else (num * Nat.pow 2 (-e).toNat, den)

/-- The number nearest to `±num / den`. -/
def round (negative : Bool) (num den : Nat) : Binary64 :=
  if num = 0 then zero negative
  else
    let guess : Int := Int.ofNat num.log2 - Int.ofNat den.log2 - 52
    let wide := scaled num den guess
    let e := max (if wide.1 / wide.2 < Nat.pow 2 52 then guess - 1 else guess) minExponent
    let (n, d) := scaled num den e
    let m := roundDiv n d
    let (m, e) := if m = Nat.pow 2 53 then (Nat.pow 2 52, e + 1) else (m, e)
    if e > maxExponent then .infinite negative else .finite negative m e

/-- The number nearest to `±m · 2^e`. -/
def ofScaled (negative : Bool) (m : Nat) (e : Int) : Binary64 :=
  if e ≥ 0 then round negative (m * Nat.pow 2 e.toNat) 1
  else round negative m (Nat.pow 2 (-e).toNat)

/-- The number nearest to `±digits · 10^e`; far out of range the powers are not computed. -/
def ofDecimal (negative : Bool) (digits : Nat) (e : Int) : Binary64 :=
  let magnitude : Int := Int.ofNat (Nat.toDigits 10 digits).length + e
  if digits = 0 || magnitude < -400 then zero negative
  else if magnitude > 400 then .infinite negative
  else if e ≥ 0 then round negative (digits * Nat.pow 10 e.toNat) 1
  else round negative digits (Nat.pow 10 (-e).toNat)

/-- The number nearest to an integer, unless it lies beyond the largest number. -/
def ofInt? (i : Int) : Option Binary64 :=
  match round (i < 0) i.natAbs 1 with
  | .infinite _ => none
  | x => some x

/-! ## Values and comparison -/

/-- The value as an integer over a power of two: `(n, k)` stands for `n / 2^k`. -/
def ratio? : Binary64 → Option (Int × Nat)
  | .finite s m e =>
    let n := if s then -(Int.ofNat m) else Int.ofNat m
    if e ≥ 0 then some (n * Nat.pow 2 e.toNat, 0) else some (n, (-e).toNat)
  | _ => none

/-- Equality of values: zeros are equal whatever their sign, and `nan` equals nothing. -/
def equals : Binary64 → Binary64 → Bool
  | .finite s m e, .finite s' m' e' => (m = 0 && m' = 0) || (s = s' && m = m' && e = e')
  | .infinite s, .infinite s' => s = s'
  | _, _ => false

/-- Whether the value is exactly an integer `i`. -/
def equalsInt (x : Binary64) (i : Int) : Bool :=
  match x.ratio? with
  | some (n, k) => n = i * Nat.pow 2 k
  | none => false

def exceedsInt (x : Binary64) (i : Int) : Bool :=
  match x with
  | .infinite s => !s
  | .nan => false
  | x =>
    match x.ratio? with
    | some (n, k) => n > i * Nat.pow 2 k
    | none => false

def isNegative : Binary64 → Bool
  | .finite s _ _ => s
  | .infinite s => s
  | .nan => false

def negate : Binary64 → Binary64
  | .finite s m e => .finite (!s) m e
  | .infinite s => .infinite (!s)
  | .nan => .nan

/-! ## Arithmetic -/

/-- The sum, rounded; only sums of numbers of one sign are formed here. -/
def add : Binary64 → Binary64 → Binary64
  | .finite s m e, .finite _ m' e' =>
    let low := min e e'
    ofScaled s (m * Nat.pow 2 (e - low).toNat + m' * Nat.pow 2 (e' - low).toNat) low
  | .nan, _ => .nan
  | _, .nan => .nan
  | .infinite s, _ => .infinite s
  | _, .infinite s => .infinite s

/-- The product, rounded. -/
def mul : Binary64 → Binary64 → Binary64
  | .finite s m e, .finite s' m' e' => ofScaled (s != s') (m * m') (e + e')
  | .nan, _ => .nan
  | _, .nan => .nan
  | .infinite s, y => if y.equalsInt 0 then .nan else .infinite (s != y.isNegative)
  | x, .infinite s => if x.equalsInt 0 then .nan else .infinite (s != x.isNegative)

end Binary64

end StringCatalog.Number
