import StringCatalog.FileTree
import StringCatalog.Lookup.Registry
import StringCatalog.Lookup.Strings
import StringCatalog.Package.Artifacts

/-!
# StringCatalog.Package.Loaded

A compiled package read back from its files: the members of its registry, the
wiring of its accessor, and the tables of the modules that the accessor imports.

* `Loaded.strings` — the look-ups that the package offers.
-/

namespace StringCatalog.Package

open Lookup

/-- A package as its files say it. -/
structure Loaded where
  registry : Registry
  wiring : Wiring
  tables : OrderedMap String Tables
  deriving Repr

/-- What a reader makes of the text of a module, when `source` gives the text of every file. -/
def loadModule? (read : List Char → Option α) (source : String → Option String) (module : String) :
    Option α := do
  read (← source (fileName module)).toList

/-- Texts that can be looked up; what the placeholders of a text are plays no part in it. -/
def Tables.lookupTable (t : Tables) : Table where
  simple := t.simple.map fun e => (e.1, some e.2)
  formatted := t.formatted.map fun e => (e.1, e.2.value)
  plurals := t.plurals
  arrays := t.arrays

namespace Loaded

/-- Reads a package whose files have the texts that `source` gives. -/
def ofSources? (source : String → Option String) : Option Loaded := do
  let members ← loadModule? RegistryModule.read? source "app_locale"
  let wiring ← loadModule? AccessorModule.read? source "localized_strings"
  let tables ← wiring.imported.mapM fun module => do
    return (module, ← loadModule? Tables.read? source module)
  return ⟨⟨members⟩, wiring, OrderedMap.ofList tables⟩

/-- Reads the package in a directory. -/
def load? (t : FileTree) (dir : Path) : Option Loaded :=
  ofSources? fun name => (t.readText (dir.entry name)).toOption

/-- The key of a member's tables: the member proper that its name stands for. -/
def keyOf (p : Loaded) (member : String) : LocaleKey :=
  match p.registry.memberNamed? member with
  | some m => .member m.1
  | none => .member member

/-- The look-ups that a package offers. -/
def strings (p : Loaded) : Strings :=
  Strings.new
    (OrderedMap.ofList (p.wiring.tables.map fun (member, module) =>
      (p.keyOf member, (p.tables.get? module).map Tables.lookupTable)))
    (p.keyOf p.wiring.default)

end Loaded

end StringCatalog.Package
