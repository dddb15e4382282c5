import StringCatalog.Failure
import StringCatalog.FileTree
import StringCatalog.Locale
import StringCatalog.Log
import StringCatalog.Value

/-!
# StringCatalog.Locale.Discovery

The locales that a directory of resources holds.  The default locale comes
first; then every directory named `values-` and a token either gives a locale
or is ignored with a warning, in the order of the names.

* `verdicts` — what becomes of each of these directories.
-/

namespace StringCatalog

open Text

/-- Why the locales cannot be told. -/
inductive DiscoveryError where
  | badDefaultName (name : String)
  | file (e : FileError)
  deriving DecidableEq, Repr

namespace Discovery

def defaultDirectory : String := "values"

/-- What becomes of a directory: its locale is listed, or it is ignored for want of a token, of a
usable name, or of a name of its own. -/
inductive Verdict where
  | listed (l : Locale)
  | noToken
  | noName
  | nameTaken (name : String)
  deriving DecidableEq, Repr

/-- What becomes of a directory when some names, in lower case, are taken. -/
def verdict (taken : List String) (directory : String) : Verdict :=
  if directory = Locale.directoryPrefix then .noToken
  else
    let l := Locale.ofDirectory directory
    if l.name.isEmpty then .noName
    else if taken.contains (lower l.name) then .nameTaken l.name
    else .listed l

/-- What becomes of directories, one after the other. -/
def verdicts (taken : List String) : List String → List (String × Verdict)
  | [] => []
  | d :: ds =>
    match verdict taken d with
    | .listed l => (d, .listed l) :: verdicts (lower l.name :: taken) ds
    | v => (d, v) :: verdicts taken ds

def report (level : Level) (message : String) : Record := ⟨.discovery, level, message⟩

def warningOf (directory : Path) : Verdict → Log
  | .listed _ => []
  | .noToken =>
    [report .warning ("Ignoring " ++ directory.text ++ ": no locale token after 'values-'")]
  | .noName => [report .warning ("Ignoring " ++ directory.text ++ ": no usable locale name")]
  | .nameTaken name =>
    [report .warning
      ("Ignoring " ++ directory.text ++ ": locale name " ++ name ++ " is already in use")]

/-- The locale of a directory that is listed, with the path of its catalog. -/
def foundIn (resources : Path) (catalogFile : String) : String × Verdict → Option (Locale × Path)
  | (d, .listed l) => some (l, (resources.entry d).child catalogFile)
  | _ => none

/-- Of names directly in the resources those of directories that count, up to the first name that
cannot be asked about. -/
def candidatesAmong (t : FileTree) (resources : Path) :
    List String → List String × Except FileError Unit
  | [] => ([], .ok ())
  | name :: names =>
    match t.isDirectory? (resources.entry name) with
    | .error e => ([], .error e)
    | .ok isDirectory =>
      let found := candidatesAmong t resources names
      (if isDirectory && Locale.directoryPrefix.toList.isPrefixOf name.toList
        then name :: found.1 else found.1, found.2)

/-- The directories that count, in the order of their names, and what stops the search for them. -/
def candidates (t : FileTree) (resources : Path) : List String × Except FileError Unit :=
  match t.isDirectory? resources with
  | .error e => ([], .error e)
  | .ok false => ([], .ok ())
  | .ok true =>
    match t.names resources with
    | .error e => ([], .error e)
    | .ok names => candidatesAmong t resources names

/-- The names that are taken from the start. -/
def reserved (default : Locale) : List String := [lower default.name, lower default.memberName]

/-- Locales, each with the path of its catalog. -/
structure Discovered where
  default : Locale × Path
  others : List (Locale × Path)
  deriving DecidableEq, Repr

def Discovered.all (d : Discovered) : List (Locale × Path) := d.default :: d.others

/-- The locales, and what is reported on the way. -/
def discover (t : FileTree) (resources : Path) (defaultName catalogFile : String) :
    Except DiscoveryError Discovered × Log :=
  match Locale.default? defaultName with
  | none => (.error (.badDefaultName defaultName), [])
  | some default =>
    let searched := candidates t resources
    let settled := verdicts (reserved default) searched.1
    let warnings := settled.flatMap fun (d, v) => warningOf (resources.entry d) v
    match searched.2 with
    | .error e => (.error (.file e), warnings)
    | .ok () =>
      let found : Discovered := {
        default := (default, (resources.entry defaultDirectory).child catalogFile)
        others := settled.filterMap (foundIn resources catalogFile) }
      let names := Value.quoted? (.list (found.all.map fun f => .text f.1.name))
      (.ok found, warnings ++ [report .info ("Found locales: " ++ names.getD "")])

end Discovery

end StringCatalog
