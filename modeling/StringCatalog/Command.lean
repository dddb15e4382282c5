import StringCatalog.Command.Logging
import StringCatalog.Command.Options
import StringCatalog.Compilation
import StringCatalog.Settings.File

/-!
# StringCatalog.Command

The two commands: `generate` compiles a package and tells how many files it
has; `locales` lists what would be compiled and changes nothing.

* `run` — what a command prints and reports, its exit code, and the tree
  afterwards.
-/

namespace StringCatalog.Command

/-- What a command breaks off with when it is none of the failures that it reports. -/
inductive Crash where
  | file (e : FileError)
  | scalar (e : Yaml.Error)
  | logging (e : LoggingError)
  | tooManyDigits
  deriving DecidableEq, Repr

/-- What comes of a command line. -/
structure Finish where
  exitCode : Nat
  output : List String
  crash : Option Crash
  tree : FileTree
  log : Log

def report (message : String) : Record := ⟨.command, .error, message⟩

/-- How a command ends on a failure: a failure of the compilation is reported, any other is not. -/
def finishFailed (t : FileTree) (output : List String) (log : Log) : Failure → Finish
  | .compile e => ⟨1, output, none, t, log ++ [report e.message]⟩
  | .file e => ⟨1, output, some (.file e), t, log⟩
  | .tooManyDigits => ⟨1, output, some .tooManyDigits, t, log⟩

/-! ## Settings -/

def configPath (t : FileTree) (o : Options) : Path :=
  (Path.ofString (o.configFolder ++ "/config.yml")).absolute t.workingDir

/-- The settings that the options give. -/
def overridesOf (o : Options) : OrderedMap String Value :=
  let given (name : String) (v : Option String) : List (String × Value) :=
    (v.map fun s => (name, .text s)).toList
  given "resources_dir" o.resourcesDir ++ given "default_locale_name" o.defaultLocaleName ++
    given "output_package" o.outputPackage ++ given "output_dir" o.outputDir

def sectionOf (sections : OrderedMap Value Value) (name : String) : Value :=
  (sections.get? (.text name)).getD .null

/-- The settings of a command, or how it ends without them, and what is reported on the way. -/
def settingsOf (t : FileTree) (o : Options) : Except Finish Settings × Log :=
  match Settings.load t (configPath t o) with
  | (.error (.config e), log) =>
    (.error ⟨1, [], none, t, log ++ [report ("_setup " ++ e.message)]⟩, log)
  | (.error (.file e), log) => (.error ⟨1, [], some (.file e), t, log⟩, log)
  | (.error (.scalar e), log) => (.error ⟨1, [], some (.scalar e), t, log⟩, log)
  | (.ok sections, log) =>
    match checkLogging (sectionOf sections "logging") with
    | .error e => (.error ⟨1, [], some (.logging e), t, log⟩, log)
    | .ok () =>
      match Settings.ofValue (sectionOf sections "localization") (Path.ofString o.projectDir)
        (overridesOf o) with
      | .error e => (.error (finishFailed t [] log (Failure.ofSettings e)), log)
      | .ok s => (.ok s, log)

/-! ## The commands -/

def generateOutput (r : Compilation.Result) : List String :=
  ("Generated " ++ toString r.written.length ++ " files in " ++ r.outputDir.text) ::
    r.compiled.skipped.map fun s =>
      "  Skipped " ++ s.locale.name ++ ": " ++ s.reason ++ " (" ++ s.path.text ++ ")"

/-- Compiles a package. -/
def generate (t : FileTree) (s : Settings) (log : Log) : Finish :=
  let r := Compilation.run t s
  match r.outcome with
  | .error e => finishFailed r.tree [] (log ++ r.log) e
  | .ok result => ⟨0, generateOutput result, none, r.tree, log ++ r.log⟩

def localeRow (l : Locale) (p : Path) (isThere : Bool) : String :=
  "\t".intercalate [l.memberName, l.code, l.displayName, l.nativeName, p.text,
    if isThere then "ok" else "missing"]

/-- The rows of locales, up to one whose path cannot be looked at. -/
def localeRows (t : FileTree) : List (Locale × Path) → List String × Option FileError
  | [] => ([], none)
  | (l, p) :: rest =>
    match t.exists? p with
    | .error e => ([], some e)
    | .ok isThere =>
      let (rows, e) := localeRows t rest
      (localeRow l p isThere :: rows, e)

/-- Lists the locales. -/
def locales (t : FileTree) (s : Settings) (log : Log) : Finish :=
  match Discovery.discover t s.resourcesDir s.defaultLocaleName s.catalogFile with
  | (.error e, found) => finishFailed t [] (log ++ found) (Failure.ofDiscovery e)
  | (.ok d, found) =>
    match localeRows t d.all with
    | (rows, none) => ⟨0, rows, none, t, log ++ found⟩
    | (rows, some e) => ⟨1, rows, some (.file e), t, log ++ found⟩

def runTask (t : FileTree) (task : Task) (o : Options) : Finish :=
  match settingsOf t o with
  | (.error finish, _) => finish
  | (.ok s, log) =>
    match task with
    | .generate => generate t s log
    | .locales => locales t s log

/-- Runs a command line. -/
def run (t : FileTree) (words : List String) : Finish :=
  match Request.ofWords words with
  | .usageError => ⟨2, [], none, t, []⟩
  | .help => ⟨0, [], none, t, []⟩
  | .run task o => runTask t task o

end StringCatalog.Command
