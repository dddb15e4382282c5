import StringCatalog.Locale.Language

/-!
# StringCatalog.Locale

Locales and the names by which a compiled package knows them.  A locale comes
from a directory token such as `de_AT`; its name is the token made safe for
identifiers.

* `safeName` — the name of a token: ASCII letters, digits and underscores, an
  upper-case letter first, no underscore last.
-/

namespace StringCatalog

open Text

/-- A locale. -/
structure Locale where
  name : String
  code : String
  displayName : String
  nativeName : String
  isDefault : Bool
  deriving DecidableEq, Repr

/-! ## Safe names -/

/-- A character as it stands in a safe name. -/
def safeChar (c : Char) : Char := if c.isAlphanum || c = '_' then c else '_'

def stripUnderscores (cs : List Char) : List Char :=
  let kept := cs.dropWhile (· = '_')
  (kept.reverse.dropWhile (· = '_')).reverse

/-- Puts an upper-case letter first. -/
def startUpper : List Char → List Char
  | [] => []
  | c :: cs => if c.isDigit then 'L' :: c :: cs else c.toUpper :: cs

def safeName (token : String) : String :=
  String.ofList (startUpper (stripUnderscores (token.toList.map safeChar)))

namespace Locale

/-- The name of the member that stands for a locale in a registry. -/
def memberName (l : Locale) : String := if l.isDefault then "DEFAULT" else upper l.name

/-- The name of the module that holds the texts of a locale. -/
def moduleName (l : Locale) : String := "strings_" ++ lower l.name

/-- The language code of the default locale. -/
def defaultCode : String := "en"

/-- The default locale of a given name, unless nothing of that name is left when it is made safe. -/
def default? (name : String) : Option Locale :=
  let safe := safeName name
  if safe.isEmpty then none
  else
    let names := Language.namesOf defaultCode
    some ⟨safe, defaultCode, names.english, names.native, true⟩

def ofToken (token : String) : Locale :=
  let names := Language.namesOf token
  ⟨safeName token, lower token, names.english, names.native, false⟩

/-- What the names of locale directories start with. -/
def directoryPrefix : String := "values-"

/-- The locale of a directory; as many characters are dropped as the common start has. -/
def ofDirectory (directory : String) : Locale :=
  ofToken (String.ofList (directory.toList.drop directoryPrefix.length))

end Locale

end StringCatalog
