import StringCatalog.Text.Word
import StringCatalog.Value

/-!
# StringCatalog.Command.Logging

The logging section of a configuration: a level, which must be known, and the
look of log lines, which must show at least one field.  The level is looked up
first, then the look is checked, and then the level must be a known one.
-/

namespace StringCatalog.Command

open Text

/-- Why log lines cannot be set up. -/
inductive LoggingError where
  | notSubscriptable (typeName : String)
  | needsIndex (typeName : String)
  | unhashable (typeName : String)
  | formatNotText (typeName : String)
  | formatBytes
  | badFormat (format : String)
  | unknownLevel (level : String)
  | tooManyDigits
  deriving DecidableEq, Repr

def LoggingError.message : LoggingError → String
  | .notSubscriptable t => "'" ++ t ++ "' object is not subscriptable"
  | .needsIndex t =>
    if t = "str" then "string indices must be integers, not 'str'"
    else (if t = "bytes" then "byte" else t) ++ " indices must be integers or slices, not str"
  | .unhashable t => "unhashable type: '" ++ t ++ "'"
  | .formatNotText t => "expected string or bytes-like object, got '" ++ t ++ "'"
  | .formatBytes => "cannot use a string pattern on a bytes-like object"
  | .badFormat f => "Invalid format '" ++ f ++ "' for '%' style"
  | .unknownLevel l => "Unknown level: " ++ quoted l
  | .tooManyDigits => Value.digitLimitMessage

/-! ## Levels -/

def levelNames : List String :=
  ["CRITICAL", "FATAL", "ERROR", "WARN", "WARNING", "INFO", "DEBUG", "NOTSET"]

def levelNumbers : List Int := [0, 10, 20, 30, 40, 50]

/-- Whether a value names a level, by its name or its number. -/
def isKnownLevel (v : Value) : Bool :=
  levelNames.any (fun n => v == .text n) || levelNumbers.any fun n => v == .int n

/-! ## Formats -/

/-- What follows a star or digits of any script, if they are there. -/
def skipCount : List Char → List Char
  | '*' :: rest => rest
  | cs => cs.dropWhile isDecimalDigit

/-- What follows a point with a star or digits, if they are there. -/
def skipPrecision (cs : List Char) : List Char :=
  match cs with
  | '.' :: '*' :: rest => rest
  | '.' :: d :: rest => if isDecimalDigit d then rest.dropWhile isDecimalDigit else cs
  | _ => cs

/-- Whether a character ends a field: a letter of a conversion in either case, also one that is the
same but for case as `i` or `s`, or a percent sign. -/
def endsField (c : Char) : Bool :=
  "diouxefgcrsa%".toList.contains c.toLower || ['\u0130', '\u0131', '\u017f'].contains c

/-- Whether a field starts here: a name of word characters in brackets, flags, a width and a
precision, of each as much as there is. -/
def startsField (cs : List Char) : Bool :=
  match cs with
  | '%' :: '(' :: rest =>
    let name := rest.takeWhile isWordChar
    match name, rest.dropWhile isWordChar with
    | _ :: _, ')' :: rest =>
      let rest := skipPrecision (skipCount (rest.dropWhile ['#', '0', '+', ' ', '-'].contains))
      match rest with
      | c :: _ => endsField c
      | [] => false
    | _, _ => false
  | _ => false

/-- Whether a field occurs in a format. -/
def hasField : List Char → Bool
  | [] => false
  | c :: cs => startsField (c :: cs) || hasField cs

/-- Checks a format; one that counts as absent is replaced by a default. -/
def checkFormat (v : Value) : Except LoggingError Unit :=
  if v.isFalsy then .ok ()
  else
    match v with
    | .text f => if hasField f.toList then .ok () else .error (.badFormat f)
    | .bytes _ => .error .formatBytes
    | v => .error (.formatNotText v.typeName)

/-! ## The section -/

def entryOf (section' : Value) (key : String) : Except LoggingError Value :=
  match section' with
  | .map entries => .ok ((OrderedMap.get? entries (.text key)).getD .null)
  | .text _ | .list _ | .bytes _ => .error (.needsIndex section'.typeName)
  | v => .error (.notSubscriptable v.typeName)

def checkLevel (level : Value) : Except LoggingError Unit :=
  if isKnownLevel level then .ok ()
  else
    match level.text? with
    | some t => .error (.unknownLevel ("Level " ++ t))
    | none => .error .tooManyDigits

def checkLogging (section' : Value) : Except LoggingError Unit := do
  let level ← entryOf section' "level"
  match level.unhashable? with
  | some t => .error (.unhashable t)
  | none =>
    if !isKnownLevel level && level.text?.isNone then .error .tooManyDigits
    else
      checkFormat (← entryOf section' "format")
      checkLevel level

end StringCatalog.Command
