import StringCatalog.Lookup.Registry
import StringCatalog.Package.Fixed

/-!
# StringCatalog.Package.RegistryModule

The module that lists the locales of a package, one member each.

* `RegistryModule.chars` and `RegistryModule.read?` — the module as text and
  back.
-/

namespace StringCatalog.Package

open Lookup

namespace RegistryModule

/-- What precedes the members. -/
def openingLines : List String := [
  "\"\"\"Locales compiled into this package.\"\"\"",
  "from enum import Enum",
  "",
  "class AppLocale(Enum):",
  "    \"\"\"Locales available in the application.\"\"\""]

/-- What follows the members. -/
def closingLines : List String := [
  "",
  "    def __init__(self, token: str, code: str, display_name: str, native_name: str) -> None:",
  "        self.code = code",
  "        self.display_name = display_name",
  "        self.native_name = native_name",
  "",
  "    @classmethod",
  "    def supported_locales(cls) -> dict[str, str]:",
  "        \"\"\"Language code -> English display name.\"\"\"",
  "        return \x7blocale.code: locale.display_name for locale in cls\x7d",
  "",
  "    @classmethod",
  "    def supported_native_locales(cls) -> dict[str, str]:",
  "        \"\"\"Language code -> native display name.\"\"\"",
  "        return \x7blocale.code: locale.native_name for locale in cls\x7d",
  "",
  "    @classmethod",
  "    def find_by_code(cls, code: str) -> 'AppLocale':",
  "        \"\"\"First locale with ``code``, ``AppLocale.DEFAULT`` when there is none.\"\"\"",
  "        for locale in cls:",
  "            if locale.code == code:",
  "                return locale",
  "        return cls.DEFAULT"]

def linesChars (lines : List String) : List Char := lines.flatMap fun l => l.toList ++ ['\n']

/-- What a member stands for, as a row of texts. -/
def valueRow (v : MemberValue) : List String := [v.token, v.code, v.displayName, v.nativeName]

def indent : List Char := [' ', ' ', ' ', ' ']

def memberLine (m : String × MemberValue) : List Char :=
  indent ++ m.1.toList ++ ' ' :: '=' :: ' ' :: rowLiteral (valueRow m.2) ++ ['\n']

/-- The member that stands for a locale. -/
def memberOf (l : Locale) : String × MemberValue :=
  (l.memberName, ⟨l.moduleName, l.code, l.displayName, l.nativeName⟩)

/-- The module as text. -/
def chars (members : List (String × MemberValue)) : List Char :=
  linesChars (headerLine :: openingLines) ++ members.flatMap memberLine ++ linesChars closingLines

def source (locales : List Locale) : String := String.ofList (chars (locales.map memberOf))

def readMember? : Reader (String × MemberValue) := fun cs => do
  let start ← expect? indent cs
  let name := start.takeWhile (· ≠ ' ')
  let (row, rest) ← readRow? (← expect? [' ', '=', ' '] (start.dropWhile (· ≠ ' ')))
  let rest ← expect? ['\n'] rest
  match row with
  | [token, code, displayName, nativeName] =>
    pure ((String.ofList name, ⟨token, code, displayName, nativeName⟩), rest)
  | _ => none

/-- Reads members up to the lines that follow them. -/
def readMembers? (cs : List Char) : Option (List (String × MemberValue)) :=
  if cs = linesChars closingLines then some []
  else
    match readMember? cs with
    | none => none
    | some (m, rest) =>
      if _h : rest.length < cs.length then (readMembers? rest).map (m :: ·) else none
termination_by cs.length

def read? (cs : List Char) : Option (List (String × MemberValue)) := do
  readMembers? (← expect? (linesChars (headerLine :: openingLines)) cs)

end RegistryModule

end StringCatalog.Package
