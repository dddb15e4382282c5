import StringCatalog.Template.Format

/-!
# StringCatalog.Template.Fill

A template with arguments in place of its conversions.  A conversion with a
position takes that argument, counted from one; the others take the arguments
from left to right.  A template that cannot be filled stays as it is.

* `fill` — the filled text or the reason why there is none;
* `fillOrKeep` — the filled text or the template.
-/

namespace StringCatalog.Template

/-- Why a template stays unfilled. -/
inductive Reason where
  | dangling (offset : Nat)
  | noArgument (conversion : Conversion)
  | refused (refusal : Refusal)
  deriving DecidableEq, Repr

def Reason.message : Reason → String
  | .dangling offset => "dangling % at offset " ++ toString offset
  | .noArgument c => "no argument for " ++ String.ofList c.chars
  | .refused r => r.message

/-- What breaks off the work on a template altogether. -/
inductive Fault where
  | positionTooLong (digits : Nat)
  | outOfMemory
  deriving DecidableEq, Repr

def Fault.message : Fault → String
  | .positionTooLong n =>
    "Exceeds the limit (4300 digits) for integer string conversion: value has " ++ toString n ++
      " digits; use sys.set_int_max_str_digits() to increase the limit"
  | .outOfMemory => ""

/-- What comes of a template. -/
inductive Outcome where
  | filled (text : String)
  | unfilled (reason : Reason)
  deriving DecidableEq, Repr

/-- Why filling stops. -/
inductive Stop where
  | unfilled (reason : Reason)
  | fault (fault : Fault)
  deriving DecidableEq, Repr

/-- The most characters that one conversion is widened to.  It stands for the memory of the machine:
one with more fills wider conversions, and one with less breaks off sooner.  Only widths are measured
by it; every precision is taken to fit. -/
def memoryLimit : Nat := Nat.pow 2 30

/-- The number of the argument that a conversion takes, counted from zero, and the number that the
next conversion without a position takes; position zero is no argument. -/
def Conversion.select (c : Conversion) (next : Nat) : Except Stop (Option Nat × Nat) :=
  match c.position with
  | none => .ok (some next, next + 1)
  | some ds =>
    if ds.length > Value.maxDigits then .error (.fault (.positionTooLong ds.length))
    else
      let n := countOf ds
      .ok (if n = 0 then none else some (n - 1), next)

/-- What an argument becomes in place of a conversion. -/
def Conversion.put (c : Conversion) (v : Value) : Except Stop (List Char) :=
  match format c v with
  | .ok cs => .ok cs
  | .error r => .error (.unfilled (.refused r))

/-- Whether a conversion asks for a width that memory has no room for. -/
def Conversion.isHuge (c : Conversion) : Bool :=
  match c.layout with
  | .ok l => l.width > memoryLimit
  | .error _ => false

/-- What stands in place of one conversion, and the number of the next argument. -/
def Conversion.fill (args : List Value) (next : Nat) (c : Conversion) :
    Except Stop (List Char × Nat) :=
  if c.letter = '%' then .ok (['%'], next)
  else if c.letter = 'n' then .ok (['\n'], next)
  else
    match c.select next with
    | .error e => .error e
    | .ok (index, next') =>
      match index.bind (args[·]?) with
      | none => .error (.unfilled (.noArgument c))
      | some v =>
        if c.isHuge && (match format {c with width := []} v with | .ok _ => true | _ => false) then
          .error (.fault .outOfMemory)
        else
          match c.put v with
          | .error e => .error e
          | .ok cs => .ok (cs, next')

/-- Fills the pieces of a template from left to right. -/
def fillPieces (args : List Value) (next : Nat) : List Piece → Except Stop (List Char)
  | [] => .ok []
  | .literal c :: rest =>
    match fillPieces args next rest with
    | .ok cs => .ok (c :: cs)
    | .error e => .error e
  | .dangling offset :: _ => .error (.unfilled (.dangling offset))
  | .conversion c :: rest =>
    match c.fill args next with
    | .error e => .error e
    | .ok (cs, next') =>
      match fillPieces args next' rest with
      | .ok ds => .ok (cs ++ ds)
      | .error e => .error e

def fill (template : String) (args : List Value) : Except Fault Outcome :=
  match fillPieces args 0 (pieces template.toList) with
  | .ok cs => .ok (.filled (String.ofList cs))
  | .error (.unfilled r) => .ok (.unfilled r)
  | .error (.fault f) => .error f

/-- Fills a template, or keeps it as it is. -/
def fillOrKeep (template : String) (args : List Value) : Except Fault String :=
  (fill template args).map fun
    | .filled t => t
    | .unfilled _ => template

end StringCatalog.Template
