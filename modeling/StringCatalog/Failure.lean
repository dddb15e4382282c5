import StringCatalog.Path
import StringCatalog.Text.Quoted

/-!
# StringCatalog.Failure

The failures that end a compilation: settings that cannot be used, a default
catalog that is not there, and a catalog that cannot be read.
-/

namespace StringCatalog

open Text

/-- Settings that cannot be used.  Values stand in it as they are printed. -/
inductive ConfigError where
  | settingsNotMap (quoted : String)
  | notText (setting quoted : String)
  | workersNotInteger (quoted : String)
  | workersNotPositive (number : String)
  | badPackage (package : String)
  | noCatalogFile
  | badDefaultName (name : String)
  | malformedFile (path : Path)
  | fileNotMap (path : Path)
  deriving DecidableEq, Repr

/-- What is said of such settings.  The wording of a malformed file's fault is left open. -/
def ConfigError.message : ConfigError → String
  | .settingsNotMap q => "localization settings must be a mapping, got " ++ q
  | .notText setting q => setting ++ " must be a string, got " ++ q
  | .workersNotInteger q => "max_workers must be an integer or null, got " ++ q
  | .workersNotPositive n => "max_workers must be positive, got " ++ n
  | .badPackage p => "Invalid output package: " ++ quoted p
  | .noCatalogFile => "catalog_file must not be empty"
  | .badDefaultName n => "Invalid default locale name: " ++ quoted n
  | .malformedFile p => "Invalid config file " ++ p.text ++ ": <cause>"
  | .fileNotMap p => "Invalid config file " ++ p.text ++ ": expected a mapping"

/-- Why a catalog cannot be read: there is no readable file, or it is no well-formed document. -/
inductive ReadCause where
  | unreadable
  | malformed
  deriving DecidableEq, Repr

/-- What ends a compilation. -/
inductive CompileError where
  | config (e : ConfigError)
  | missingDefault (path : Path)
  | badCatalog (path : Path) (cause : ReadCause)
  deriving DecidableEq, Repr

def CompileError.message : CompileError → String
  | .config e => e.message
  | .missingDefault p => "Default locale catalog does not exist: " ++ p.text
  | .badCatalog p _ => "Failed to parse " ++ p.text ++ ": <cause>"

end StringCatalog
