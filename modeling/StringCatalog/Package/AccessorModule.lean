import StringCatalog.Package.RegistryModule

/-!
# StringCatalog.Package.AccessorModule

The module through which a package's texts are looked up.  It imports the
module of every locale and wires each member of the registry to one of them.

* `AccessorModule.chars` and `AccessorModule.read?` — the module as text and
  back.
-/

namespace StringCatalog.Package

open RegistryModule

/-- Which modules a package imports, which module each member of the registry reads from, and which
member is the default. -/
structure Wiring where
  imported : List String
  tables : List (String × String)
  default : String
  deriving DecidableEq, Repr

namespace Wiring

/-- Every locale reads from its own module. -/
def ofLocales (locales : List Locale) (default : Locale) : Wiring :=
  ⟨locales.map Locale.moduleName, locales.map fun l => (l.memberName, l.moduleName),
    default.memberName⟩

end Wiring

namespace AccessorModule

/-- What precedes the imports. -/
def openingLines : List String := [
  "\"\"\"Locale-aware lookup over generated string tables.",
  "",
  "Every lookup tries the requested locale, then the default locale, then gives",
  "up with ``SENTINEL`` (or an empty tuple for arrays). Lookups never raise.",
  "",
  "The current locale is process-wide state with last-write-wins semantics and",
  "no locking: a lookup running while another thread switches the locale may",
  "see either the old or the new one.",
  "\"\"\"",
  "import re",
  "from collections.abc import Hashable, Mapping",
  "from typing import Any, NamedTuple"]

/-- What stands between the imports and the wiring. -/
def middleLines : List String := [
  "from .app_locale import AppLocale",
  "SENTINEL = '???'",
  "CONVERSION_REGEX = re.compile('%(?:([0-9]+)\\\\$)?([-#+ 0]*)([0-9]+)?(?:\\\\.([0-9]+))?([a-zA-Z%])')",
  "INTEGER_CONVERSIONS = 'diuoxX'",
  "FLOAT_CONVERSIONS = 'eEfFgG'",
  "",
  "class Substituted(NamedTuple):",
  "    text: str",
  "",
  "class SubstitutionFailed(NamedTuple):",
  "    template: str",
  "    reason: str",
  "",
  "def _is_integer(arg: Any) -> bool:",
  "    return isinstance(arg, int) and (not isinstance(arg, bool))",
  "",
  "def _render(conversion: str, spec: str, arg: Any) -> str:",
  "    if conversion in INTEGER_CONVERSIONS:",
  "        if not _is_integer(arg):",
  "            raise TypeError(f'%\x7bconversion\x7d needs an int, got \x7btype(arg).__name__\x7d')",
  "        return (spec + conversion) % arg",
  "    if conversion in FLOAT_CONVERSIONS or conversion in 'aA':",
  "        if not (_is_integer(arg) or isinstance(arg, float)):",
  "            raise TypeError(f'%\x7bconversion\x7d needs a number, got \x7btype(arg).__name__\x7d')",
  "        if conversion in FLOAT_CONVERSIONS:",
  "            return (spec + conversion) % arg",
  "        text = float(arg).hex()",
  "        return (spec + 's') % (text.upper() if conversion == 'A' else text)",
  "    if conversion == 'c':",
  "        if not (_is_integer(arg) or (isinstance(arg, str) and len(arg) == 1)):",
  "            raise TypeError(f'%c needs a character, got \x7barg!r\x7d')",
  "        return (spec + 'c') % arg",
  "    if conversion in 'sS':",
  "        text = str(arg)",
  "        return (spec + 's') % (text.upper() if conversion == 'S' else text)",
  "    raise ValueError(f'unknown conversion %\x7bconversion\x7d')",
  "",
  "def substitute(template: str, args: tuple) -> Substituted | SubstitutionFailed:",
  "    \"\"\"Substitute ``args`` into a printf-style ``template``.",
  "",
  "    Supports ``%[index$][flags][width][.precision]conversion``. Indexed",
  "    conversions are 1-based, unindexed ones consume arguments left to right,",
  "    surplus arguments are ignored.",
  "    \"\"\"",
  "    pieces = []",
  "    next_index = 0",
  "    offset = 0",
  "    while True:",
  "        percent = template.find('%', offset)",
  "        if percent < 0:",
  "            pieces.append(template[offset:])",
  "            return Substituted(''.join(pieces))",
  "        pieces.append(template[offset:percent])",
  "        match = CONVERSION_REGEX.match(template, percent)",
  "        if match is None:",
  "            return SubstitutionFailed(template, f'dangling % at offset \x7bpercent\x7d')",
  "        position, flags, width, precision, conversion = match.groups()",
  "        offset = match.end()",
  "        if conversion == '%':",
  "            pieces.append('%')",
  "            continue",
  "        if conversion == 'n':",
  "            pieces.append('\\n')",
  "            continue",
  "        if position is None:",
  "            index = next_index",
  "            next_index += 1",
  "        else:",
  "            index = int(position) - 1",
  "        if not 0 <= index < len(args):",
  "            return SubstitutionFailed(template, f'no argument for \x7bmatch.group(0)\x7d')",
  "        spec = '%' + flags + (width or '') + ('' if precision is None else '.' + precision)",
  "        try:",
  "            pieces.append(_render(conversion, spec, args[index]))",
  "        except (TypeError, ValueError, OverflowError) as ex:",
  "            return SubstitutionFailed(template, str(ex))",
  "",
  "def format_template(template: str, args: tuple) -> str:",
  "    result = substitute(template, args)",
  "    if isinstance(result, Substituted):",
  "        return result.text",
  "    return result.template",
  "",
  "def select_plural_category(quantity: int, categories: Any) -> str | None:",
  "    if quantity == 0 and 'zero' in categories:",
  "        return 'zero'",
  "    if quantity == 1 and 'one' in categories:",
  "        return 'one'",
  "    if quantity == 2 and 'two' in categories:",
  "        return 'two'",
  "    if quantity > 2 and 'many' in categories:",
  "        return 'many'",
  "    if 'other' in categories:",
  "        return 'other'",
  "    return None",
  "",
  "class LocalizedStrings:",
  "    \"\"\"Lookup facade over per-locale tables.",
  "",
  "    ``tables`` maps a locale to an object exposing ``SIMPLE``, ``FORMATTED``,",
  "    ``PLURALS`` and ``ARRAYS`` mappings (the generated ``strings_*`` modules).",
  "    \"\"\"",
  "",
  "    def __init__(self, tables: Mapping[Hashable, Any], default_locale: Hashable) -> None:",
  "        self._tables = dict(tables)",
  "        self._default_locale = default_locale",
  "        self._current_locale = default_locale",
  "",
  "    def current_locale(self) -> Hashable:",
  "        return self._current_locale",
  "",
  "    def set_current_locale(self, locale: Hashable) -> None:",
  "        self._current_locale = locale",
  "",
  "    def _lookup(self, table_name: str, key: str, locale: Hashable | None) -> Any:",
  "        requested = self._current_locale if locale is None else locale",
  "        for candidate in (requested, self._default_locale):",
  "            try:",
  "                tables = self._tables.get(candidate)",
  "            except TypeError:",
  "                continue",
  "            if tables is None:",
  "                continue",
  "            table = getattr(tables, table_name)",
  "            if key in table:",
  "                return table[key]",
  "        return None",
  "",
  "    def get(self, key: str, locale: Hashable | None=None) -> str:",
  "        value = self._lookup('SIMPLE', key, locale)",
  "        return SENTINEL if value is None else value",
  "",
  "    def get_formatted(self, key: str, *args: Any, locale: Hashable | None=None) -> str:",
  "        entry = self._lookup('FORMATTED', key, locale)",
  "        if entry is None:",
  "            return SENTINEL",
  "        return format_template(entry.value, args)",
  "",
  "    def get_plural(self, key: str, quantity: int, *args: Any, locale: Hashable | None=None) -> str:",
  "        items = self._lookup('PLURALS', key, locale)",
  "        if items is None:",
  "            return SENTINEL",
  "        category = select_plural_category(quantity, items)",
  "        if category is None:",
  "            return SENTINEL",
  "        if args:",
  "            return format_template(items[category], args)",
  "        return items[category]",
  "",
  "    def get_string_array(self, key: str, locale: Hashable | None=None) -> tuple[str, ...]:",
  "        items = self._lookup('ARRAYS', key, locale)",
  "        return () if items is None else tuple(items)"]

/-- What follows the wiring. -/
def closingLines : List String := [
  "get = _strings.get",
  "get_formatted = _strings.get_formatted",
  "get_plural = _strings.get_plural",
  "get_string_array = _strings.get_string_array",
  "current_locale = _strings.current_locale",
  "set_current_locale = _strings.set_current_locale"]

def importOpening : List Char := "from . import ".toList

def wiringOpening : List Char := "_strings = LocalizedStrings(\x7b".toList

/-- What a member of the registry is named by. -/
def memberOpening : List Char := "AppLocale.".toList

/-- A member with its module. -/
def wire (w : String × String) : List Char :=
  memberOpening ++ w.1.toList ++ ':' :: ' ' :: w.2.toList

def chars (w : Wiring) : List Char :=
  linesChars (headerLine :: openingLines) ++
    importOpening ++ commaSeparated (w.imported.map String.toList) ++ '\n' ::
    linesChars middleLines ++
    wiringOpening ++ commaSeparated (w.tables.map wire) ++ '\x7d' :: ',' :: ' ' ::
    memberOpening ++ w.default.toList ++ ')' :: '\n' ::
    linesChars closingLines

def source (locales : List Locale) (default : Locale) : String :=
  String.ofList (chars (Wiring.ofLocales locales default))

/-- Whether a character ends a name. -/
def isMark (c : Char) : Bool := [',', ':', ' ', ')', '\x7d', '\n'].contains c

/-- Reads a name: it ends before the first mark. -/
def readName? : Reader String := fun cs =>
  match cs.takeWhile fun c => !isMark c with
  | [] => none
  | name => some (String.ofList name, cs.dropWhile fun c => !isMark c)

def readWire? : Reader (String × String) := fun cs => do
  let (member, rest) ← readName? (← expect? memberOpening cs)
  let (module, rest) ← readName? (← expect? [':', ' '] rest)
  pure ((member, module), rest)

def read? (cs : List Char) : Option Wiring := do
  let rest ← expect? (linesChars (headerLine :: openingLines) ++ importOpening) cs
  let (imported, rest) ← readItems? readName? ['\n'] true rest
  let rest ← expect? (linesChars middleLines ++ wiringOpening) rest
  let (tables, rest) ← readItems? readWire? ['\x7d'] false rest
  let (default, rest) ← readName? (← expect? (',' :: ' ' :: memberOpening) rest)
  if rest = ')' :: '\n' :: linesChars closingLines then
    pure { imported, tables, default }
  else none

end AccessorModule

end StringCatalog.Package
