import StringCatalog.FileTree
import StringCatalog.Log
import StringCatalog.Settings.Overlay
import StringCatalog.Yaml.Load

/-!
# StringCatalog.Settings.File

The sections of a configuration file in a tree.  Without the file the defaults
hold, and its absence is reported.
-/

namespace StringCatalog

/-- Why a configuration file gives no sections: it cannot be used, it cannot be read, or a scalar in
it is not what it is marked as. -/
inductive ConfigFileError where
  | config (e : ConfigError)
  | file (e : FileError)
  | scalar (e : Yaml.Error)
  deriving DecidableEq, Repr

namespace Settings

/-- The sections that hold under the text of a configuration file. -/
def ofFileText (p : Path) (text : String) : Except ConfigFileError (OrderedMap Value Value) :=
  match Yaml.load text with
  | .error .malformed => .error (.config (.malformedFile p))
  | .error e => .error (.scalar e)
  | .ok loaded => (ofFile p loaded).mapError .config

/-- What is reported of a missing file. -/
def missingReport (p : Path) : Record :=
  ⟨.settings, .error, "Config file not found: " ++ p.text ++ ", using defaults."⟩

/-- The sections that hold under a configuration file, and what is reported. -/
def load (t : FileTree) (p : Path) : Except ConfigFileError (OrderedMap Value Value) × Log :=
  match t.readText p with
  | .error .notFound => (.ok defaultSections, [missingReport p])
  | .error e => (.error (.file e), [])
  | .ok text => (ofFileText p text, [])

end Settings

end StringCatalog
