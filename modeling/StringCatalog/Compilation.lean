import StringCatalog.Catalog.Load
import StringCatalog.Locale.Discovery
import StringCatalog.Package.Write
import StringCatalog.Settings

/-!
# StringCatalog.Compilation

From a directory of resources to a package: the locales are discovered, those
without a catalog are left out, the catalogs are read, and the modules of the
package are written.  Nothing is written before everything has been read.
-/

namespace StringCatalog

/-- What stops the work: a failure of the compilation, of the file system, or of a message that
would have to print an integer of too many digits. -/
inductive Failure where
  | compile (e : CompileError)
  | file (e : FileError)
  | tooManyDigits
  deriving DecidableEq, Repr

/-- Settings that are not accepted stop the work. -/
def Failure.ofSettings : SettingsError → Failure
  | .config e => .compile (.config e)
  | .tooManyDigits => .tooManyDigits

/-- Locales that cannot be told stop the work. -/
def Failure.ofDiscovery : DiscoveryError → Failure
  | .badDefaultName name => .compile (.config (.badDefaultName name))
  | .file e => .file e

/-- A locale that is left out. -/
structure Skipped where
  locale : Locale
  path : Path
  deriving DecidableEq, Repr

/-- Why a locale is left out. -/
def Skipped.reason (_ : Skipped) : String := "catalog file does not exist"

/-- What was read: the default locale, the locales with their catalogs, and the locales without. -/
structure Compiled where
  default : Locale
  catalogs : List (Locale × Path × Catalog)
  skipped : List Skipped
  deriving Repr

namespace Compiled

/-- The model that a package is made from. -/
def model (c : Compiled) : Model :=
  ⟨c.default, OrderedMap.ofList (c.catalogs.map fun e => (e.1, e.2.2))⟩

end Compiled

namespace Compilation

def report (level : Level) (message : String) : Record := ⟨.compilation, level, message⟩

/-- Which of the discovered locales have a catalog, and which do not; the default one must. -/
def survey (t : FileTree) : List (Locale × Path) →
    Except Failure (List (Locale × Path) × List Skipped) × Log
  | [] => (.ok ([], []), [])
  | (l, p) :: rest =>
    match t.exists? p with
    | .error e => (.error (.file e), [])
    | .ok true =>
      let (outcome, log) := survey t rest
      (outcome.map fun (present, skipped) => ((l, p) :: present, skipped), log)
    | .ok false =>
      if l.isDefault then (.error (.compile (.missingDefault p)), [])
      else
        let (outcome, log) := survey t rest
        (outcome.map fun (present, skipped) => (present, ⟨l, p⟩ :: skipped),
          report .warning ("Locale file does not exist: " ++ p.text) :: log)

/-- Reads catalogs up to the first one that cannot be read. -/
def loadAll (t : FileTree) : List (Locale × Path) →
    Except Failure (List (Locale × Path × Catalog)) × Log
  | [] => (.ok [], [])
  | (l, p) :: rest =>
    match Catalog.load t p with
    | (.error cause, log) => (.error (.compile (.badCatalog p cause)), log)
    | (.ok c, log) =>
      let (outcome, more) := loadAll t rest
      (outcome.map fun cs => (l, p, c) :: cs, log ++ more)

/-- Reads everything that a package is made from. -/
def compile (t : FileTree) (s : Settings) : Except Failure Compiled × Log :=
  match Discovery.discover t s.resourcesDir s.defaultLocaleName s.catalogFile with
  | (.error e, log) => (.error (Failure.ofDiscovery e), log)
  | (.ok found, log) =>
    match survey t found.all with
    | (.error e, surveyed) => (.error e, log ++ surveyed)
    | (.ok (present, skipped), surveyed) =>
      let (outcome, loaded) := loadAll t present
      (outcome.map fun catalogs => ⟨found.default.1, catalogs, skipped⟩,
        log ++ surveyed ++ loaded)

/-- A finished compilation. -/
structure Result where
  compiled : Compiled
  outputDir : Path
  written : List Path

/-- What comes of a run: its result, the tree afterwards, and what is reported. -/
structure Run where
  outcome : Except Failure Result
  tree : FileTree
  log : Log

/-- What is reported of a locale that was left out. -/
def skipReport (s : Skipped) : Record :=
  report .warning
    ("Skipped locale " ++ s.locale.name ++ " (" ++ s.path.text ++ "): " ++ s.reason)

/-- Compiles a package and writes it. -/
def run (t : FileTree) (s : Settings) : Run :=
  match compile t s with
  | (.error e, log) => ⟨.error e, t, log⟩
  | (.ok c, log) =>
    let w := Package.write t s.packageDir (Package.artifacts c.model)
    match w.outcome with
    | .error e => ⟨.error (.file e), w.tree, log ++ w.log⟩
    | .ok written =>
      let done := report .info
        ("Generated " ++ toString c.catalogs.length ++ " locale(s) into " ++ s.packageDir.text)
      ⟨.ok ⟨c, s.packageDir, written⟩, w.tree,
        log ++ w.log ++ done :: c.skipped.map skipReport⟩

end Compilation

end StringCatalog
