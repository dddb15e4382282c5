import StringCatalog.Package.AccessorModule

/-!
# StringCatalog.Package.Artifacts

The files of a compiled package: the type of texts with placeholders, the
tables of every locale, the registry, the accessor and the package's face.
-/

namespace StringCatalog

/-- Locales with their catalogs, and the one that is the default. -/
structure Model where
  default : Locale
  catalogs : OrderedMap Locale Catalog
  deriving Repr

def Model.locales (m : Model) : List Locale := m.catalogs.keys

namespace Package

def moduleSuffix : String := ".py"

def fileName (module : String) : String := module ++ moduleSuffix

def tablesFile (l : Locale) : String := fileName l.moduleName

/-- The file of the type of texts with placeholders. -/
def formattedStringFile : String := fileName "formatted_string"

def registryFile : String := fileName "app_locale"

def accessorFile : String := fileName "localized_strings"

/-- The file of the package's face. -/
def faceFile : String := fileName "__init__"

/-- The files of a package by name, in the order in which they are written. -/
abbrev Artifacts := OrderedMap String String

/-- The files of a model; of two locales with one module the later one fills the file. -/
def artifacts (m : Model) : Artifacts :=
  OrderedMap.ofList (
    (formattedStringFile, formattedStringSource) ::
    m.catalogs.map (fun e => (tablesFile e.1, (Tables.ofCatalog e.1 e.2).source)) ++
    [(registryFile, RegistryModule.source m.locales),
      (accessorFile, AccessorModule.source m.locales m.default),
      (faceFile, faceSource)])

end Package

/-! ## Drafts -/

/-- An entry, or a value that stands where an entry should. -/
abbrev Draft := Except Value Entry

/-- The model of drafted catalogs, or the first value that is no entry.  Of two drafts for one
locale the later one counts. -/
def Model.ofDrafts (default : Locale) (drafts : List (Locale × List Draft)) : Except Value Model := do
  let catalogs ← (OrderedMap.ofList drafts).mapM fun (l, entries) => do
    return (l, ← entries.mapM id)
  return { default, catalogs }

end StringCatalog
