import StringCatalog.Text.Quoted

/-!
# StringCatalog.Yaml.Error

Why a configuration text has no value: it is malformed, or a scalar in it is
not what it is marked as.
-/

namespace StringCatalog.Yaml

open Text

/-- The part of a date or time that is out of its range. -/
inductive DateField where
  | year (n : Nat)
  | month
  | day
  | hour
  | minute
  | second
  | zone (offset : String)
  deriving DecidableEq, Repr

/-- Why a text has no value. -/
inductive Error where
  | malformed
  | notInteger (base : Nat) (text : String)
  | tooManyDigits (digits : Nat)
  | notNumber (text : String)
  | emptyNumber
  | notBoolean (text : String)
  | notMoment
  | outOfRange (field : DateField)
  | notCharacter
  | characterOverflow
  deriving DecidableEq, Repr

/-- What is said of a field out of its range. -/
def DateField.message : DateField → String
  | .year n => "year " ++ toString n ++ " is out of range"
  | .month => "month must be in 1..12"
  | .day => "day is out of range for month"
  | .hour => "hour must be in 0..23"
  | .minute => "minute must be in 0..59"
  | .second => "second must be in 0..59"
  | .zone offset =>
    "offset must be a timedelta strictly between -timedelta(hours=24) and timedelta(hours=24), not "
      ++ offset ++ "."

/-- What is said of such a text.  The wording for a malformed one is left open. -/
def Error.message : Error → String
  | .malformed => "<cause>"
  | .notInteger base text =>
    "invalid literal for int() with base " ++ toString base ++ ": " ++ quoted text
  | .tooManyDigits n =>
    "Exceeds the limit (4300 digits) for integer string conversion: value has " ++ toString n ++
      " digits; use sys.set_int_max_str_digits() to increase the limit"
  | .notNumber text => "could not convert string to float: " ++ quoted text
  | .emptyNumber => "string index out of range"
  | .notBoolean text => quoted text
  | .notMoment => "'NoneType' object has no attribute 'groupdict'"
  | .outOfRange field => field.message
  | .notCharacter => "chr() arg not in range(0x110000)"
  | .characterOverflow => "Python int too large to convert to C int"

end StringCatalog.Yaml
