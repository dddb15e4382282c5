import StringCatalog.Lookup.Plural
import StringCatalog.Template.Fill

/-!
# StringCatalog.Lookup.Strings

Look-up of texts in tables per locale.  A look-up tries the locale asked for
(the current one if none is named), then the default locale, and then gives
`sentinel`, or no items for an array.  The current locale is whatever was set
last; the tables never change.
-/

namespace StringCatalog.Lookup

open Template

/-- What a look-up names a locale by: a member of a registry or any value. -/
inductive LocaleKey where
  | member (name : String)
  | value (v : Value)
  deriving Inhabited

namespace LocaleKey

/-- Whether two keys name one locale. -/
def same : LocaleKey → LocaleKey → Bool
  | .member a, .member b => a = b
  | .value v, .value w => v == w
  | _, _ => false

instance : BEq LocaleKey := ⟨same⟩

/-- Whether no locale is named. -/
def isNull : LocaleKey → Bool
  | .value .null => true
  | _ => false

/-- Whether a locale of this name can have a table at all. -/
def canHaveTable : LocaleKey → Bool
  | .member _ => true
  | .value v => v.unhashable?.isNone

end LocaleKey

/-- The texts of one locale, by kind.  A plain text may be missing under its key. -/
structure Table where
  simple : OrderedMap String (Option String)
  formatted : OrderedMap String String
  plurals : OrderedMap String (OrderedMap String String)
  arrays : OrderedMap String (List String)
  deriving Repr

/-- The tables of all locales with the default and the current one. -/
structure Strings where
  tables : OrderedMap LocaleKey (Option Table)
  default : LocaleKey
  current : LocaleKey

/-- Why a look-up breaks off. -/
inductive LookupError where
  | plural (e : PluralError)
  | unhashable (typeName : String)
  | fault (f : Fault)
  deriving DecidableEq, Repr

def LookupError.message : LookupError → String
  | .plural e => e.message
  | .unhashable t => "unhashable type: '" ++ t ++ "'"
  | .fault f => f.message

/-- The answer of a look-up that finds nothing. -/
def sentinel : String := "???"

namespace Strings

/-- Tables whose current locale is the default one. -/
def new (tables : OrderedMap LocaleKey (Option Table)) (default : LocaleKey) : Strings :=
  ⟨tables, default, default⟩

def setCurrent (s : Strings) (locale : LocaleKey) : Strings := {s with current := locale}

/-- The locale that a look-up asks for. -/
def requested (s : Strings) (locale : LocaleKey) : LocaleKey :=
  if locale.isNull then s.current else locale

def tableOf (s : Strings) (locale : LocaleKey) : Option Table :=
  if locale.canHaveTable then (s.tables.get? locale).join else none

/-- The entry of a key; only texts are keys of tables. -/
def entryOf (table : OrderedMap String α) (key : Value) : Except LookupError (Option α) :=
  match key.unhashable? with
  | some t => .error (.unhashable t)
  | none =>
    match key with
    | .text k => .ok (table.get? k)
    | _ => .ok none

/-- The entry of a key in the first of some locales that has it. -/
def findIn (s : Strings) (kind : Table → OrderedMap String α) (key : Value) :
    List LocaleKey → Except LookupError (Option α)
  | [] => .ok none
  | locale :: locales =>
    match s.tableOf locale with
    | none => findIn s kind key locales
    | some table =>
      match entryOf (kind table) key with
      | .error e => .error e
      | .ok (some entry) => .ok (some entry)
      | .ok none => findIn s kind key locales

/-- The entry of a key in the locale asked for or else in the default one. -/
def find (s : Strings) (kind : Table → OrderedMap String α) (key : Value) (locale : LocaleKey) :
    Except LookupError (Option α) :=
  s.findIn kind key [s.requested locale, s.default]

/-- A template with its arguments. -/
def filled (template : String) (args : List Value) : Except LookupError String :=
  (fillOrKeep template args).mapError .fault

/-- A plain text. -/
def get (s : Strings) (key : Value) (locale : LocaleKey) : Except LookupError String := do
  return ((← s.find Table.simple key locale).join).getD sentinel

/-- A text with arguments put in. -/
def getFormatted (s : Strings) (key : Value) (args : List Value) (locale : LocaleKey) :
    Except LookupError String := do
  match ← s.find Table.formatted key locale with
  | none => return sentinel
  | some template => filled template args

/-- The category that the items of a plural offer for a quantity. -/
def categoryOf (quantity : Value) (items : OrderedMap String String) :
    Except LookupError (Option String) :=
  (pluralCategory quantity (.map (List.map (fun e => (.text e.1, .text e.2)) items))).mapError .plural

/-- The text for a quantity, with arguments put in if there are any. -/
def getPlural (s : Strings) (key quantity : Value) (args : List Value) (locale : LocaleKey) :
    Except LookupError String := do
  match ← s.find Table.plurals key locale with
  | none => return sentinel
  | some items =>
    match (← categoryOf quantity items).bind items.get? with
    | none => return sentinel
    | some text => if args.isEmpty then return text else filled text args

def getArray (s : Strings) (key : Value) (locale : LocaleKey) :
    Except LookupError (List String) := do
  return (← s.find Table.arrays key locale).getD []

end Strings

/-! ## Runs -/

/-- A call on the tables. -/
inductive Call where
  | current
  | setCurrent (locale : LocaleKey)
  | get (key : Value) (locale : LocaleKey)
  | formatted (key : Value) (args : List Value) (locale : LocaleKey)
  | plural (key quantity : Value) (args : List Value) (locale : LocaleKey)
  | array (key : Value) (locale : LocaleKey)

/-- The answer to a call. -/
inductive Answer where
  | done
  | locale (l : LocaleKey)
  | text (s : String)
  | items (xs : List String)

/-- The answer to a call and the tables after it. -/
def Strings.step (s : Strings) : Call → Except LookupError Answer × Strings
  | .current => (.ok (.locale s.current), s)
  | .setCurrent locale => (.ok .done, s.setCurrent locale)
  | .get key locale => ((s.get key locale).map .text, s)
  | .formatted key args locale => ((s.getFormatted key args locale).map .text, s)
  | .plural key quantity args locale => ((s.getPlural key quantity args locale).map .text, s)
  | .array key locale => ((s.getArray key locale).map .items, s)

/-- The answers to calls one after the other. -/
def Strings.run (s : Strings) : List Call → List (Except LookupError Answer)
  | [] => []
  | c :: cs =>
    let (answer, s') := s.step c
    answer :: s'.run cs

end StringCatalog.Lookup
