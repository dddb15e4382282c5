import StringCatalog.Package.Tables

/-!
# StringCatalog.Package.Fixed

The modules of a compiled package that are the same for all catalogs: the type
of texts with placeholders and the package's own face.
-/

namespace StringCatalog.Package

/-- A module of given lines, under the header. -/
def moduleOf (lines : List String) : String :=
  String.ofList ((headerLine :: lines).flatMap fun l => l.toList ++ ['\n'])

def formattedStringLines : List String := [
  "\"\"\"Template text together with the placeholder tokens it contains.\"\"\"",
  "from typing import NamedTuple",
  "",
  "class FormattedString(NamedTuple):",
  "    value: str",
  "    format_args: tuple[str, ...]"]

def faceLines : List String := [
  "\"\"\"Localized strings compiled by localegen.\"\"\"",
  "from .app_locale import AppLocale",
  "from .formatted_string import FormattedString",
  "from .localized_strings import SENTINEL, get, get_formatted, get_plural, get_string_array, current_locale, set_current_locale",
  "__all__ = ['AppLocale', 'FormattedString', 'SENTINEL', 'get', 'get_formatted', 'get_plural', 'get_string_array', 'current_locale', 'set_current_locale']"]

def formattedStringSource : String := moduleOf formattedStringLines

def faceSource : String := moduleOf faceLines

end StringCatalog.Package
