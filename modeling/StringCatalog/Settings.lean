import StringCatalog.Failure
import StringCatalog.Text.Identifier
import StringCatalog.Value

/-!
# StringCatalog.Settings

The settings of a compilation.  Each of the six is taken from the overrides if
it is given there and not null, else from the settings map if it is a key of
it, else from the defaults; types are checked before values.

* `Settings.ofValue` — the settings, or the first thing that is wrong with them.
-/

namespace StringCatalog

open Text

/-- Settings that were accepted. -/
structure Settings where
  outputPackage : String
  resourcesDir : Path
  defaultLocaleName : String
  outputDir : Path
  catalogFile : String
  maxWorkers : Option Int
  deriving DecidableEq, Repr

/-- Why settings are not accepted; a message that must print an integer of too many digits fails
itself. -/
inductive SettingsError where
  | config (e : ConfigError)
  | tooManyDigits
  deriving DecidableEq, Repr

namespace Settings

/-- The settings with their defaults. -/
def defaults : OrderedMap String Value := [
  ("output_package", .text "org.localegen.resources"),
  ("resources_dir", .text "src/commonMain/composeResources"),
  ("default_locale_name", .text "Default"),
  ("output_dir", .text "build/generated/localegen"),
  ("catalog_file", .text "strings.xml"),
  ("max_workers", .null)]

/-- The value given for a setting, where null counts as none. -/
def override? (overrides : OrderedMap String Value) (name : String) : Option Value :=
  match overrides.get? name with
  | some .null => none
  | v => v

/-- The value of a setting that counts. -/
def effective (given : OrderedMap Value Value) (overrides : OrderedMap String Value)
    (name : String) : Value :=
  (override? overrides name).getD
    ((given.get? (.text name)).getD ((defaults.get? name).getD .null))

/-- Refuses a value with a message that prints it. -/
def refuse (v : Value) (e : String → ConfigError) : Except SettingsError α :=
  match v.quoted? with
  | some q => .error (.config (e q))
  | none => .error .tooManyDigits

def textSetting (value : String → Value) (name : String) : Except SettingsError String :=
  match value name with
  | .text s => .ok s
  | v => refuse v (.notText name)

def workersSetting : Value → Except SettingsError (Option Int)
  | .null => .ok none
  | .int i => .ok (some i)
  | v => refuse v .workersNotInteger

def packageNames (package : String) : List String := splitText '.' package

/-- Refuses settings of the right types that cannot be used. -/
def validate (s : Settings) : Except SettingsError Settings :=
  if !(packageNames s.outputPackage).all isModuleName then
    .error (.config (.badPackage s.outputPackage))
  else if s.catalogFile.isEmpty then .error (.config .noCatalogFile)
  else
    match s.maxWorkers with
    | none => .ok s
    | some n => if n < 1 then refuse (.int n) .workersNotPositive else .ok s

/-- The settings for a project. -/
def ofValue (settings : Value) (projectDir : Path) (overrides : OrderedMap String Value) :
    Except SettingsError Settings :=
  match settings with
  | .map given => do
    let value := effective given overrides
    let outputPackage ← textSetting value "output_package"
    let resourcesDir ← textSetting value "resources_dir"
    let defaultLocaleName ← textSetting value "default_locale_name"
    let outputDir ← textSetting value "output_dir"
    let catalogFile ← textSetting value "catalog_file"
    let maxWorkers ← workersSetting (value "max_workers")
    validate {
      outputPackage, defaultLocaleName, catalogFile, maxWorkers
      resourcesDir := projectDir.child resourcesDir
      outputDir := projectDir.child outputDir }
  | v => refuse v .settingsNotMap

def packageDir (s : Settings) : Path :=
  (packageNames s.outputPackage).foldl Path.child s.outputDir

end Settings

end StringCatalog
