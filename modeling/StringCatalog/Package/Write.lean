import StringCatalog.FileTree
import StringCatalog.Log
import StringCatalog.Package.Artifacts

/-!
# StringCatalog.Package.Write

The files of a package in a directory.  Modules of an earlier package that the
new one does not have are removed first; they are known by their first line.  A
file that already reads as it should is left alone.

What happens before something fails stays as it is.
-/

namespace StringCatalog.Package

def report (level : Level) (message : String) : Record := ⟨.package, level, message⟩

/-- What comes of writing: the paths of the files, the tree afterwards, and what is reported. -/
structure Written where
  outcome : Except FileError (List Path)
  tree : FileTree
  log : Log

/-! ## Earlier modules -/

/-- Whether the first line of a file is the header of compiled modules. -/
def isCompiled (content : ByteArray) : Bool :=
  let header := headerLine.toUTF8.toList
  let bytes := content.toList
  header.isPrefixOf bytes &&
    match bytes.drop header.length with
    | b :: _ => b = 10 || b = 13
    | [] => false

def isModuleFile (name : String) : Bool := moduleSuffix.toList.isSuffixOf name.toList

/-- Whether an entry of a directory is a compiled module that is not among the artifacts.  Of an
entry that could be one, the file system may refuse to say whether it is a file. -/
def isStale (t : FileTree) (artifacts : Artifacts) (dir : Path) (name : String) :
    Except FileError Bool :=
  if !isModuleFile name || OrderedMap.has artifacts name then .ok false
  else
    match t.isFile? (dir.entry name) with
    | .error e => .error e
    | .ok false => .ok false
    | .ok true =>
      match t.read (dir.entry name) with
      | .error e => .error e
      | .ok content => .ok (isCompiled content)

/-- Of names in a directory those of modules that are to be removed, up to the first name that the
file system refuses to be asked about. -/
def staleAmong (t : FileTree) (artifacts : Artifacts) (dir : Path) :
    List String → List String × Except FileError Unit
  | [] => ([], .ok ())
  | name :: names =>
    match isStale t artifacts dir name with
    | .error e => ([], .error e)
    | .ok stale =>
      let found := staleAmong t artifacts dir names
      (if stale then name :: found.1 else found.1, found.2)

/-- The modules in a directory that are to be removed, and what stops the search for them. -/
def staleNames (t : FileTree) (artifacts : Artifacts) (dir : Path) :
    List String × Except FileError Unit :=
  match t.isDirectory? dir with
  | .error e => ([], .error e)
  | .ok false => ([], .ok ())
  | .ok true =>
    match t.names dir with
    | .error e => ([], .error e)
    | .ok names => staleAmong t artifacts dir names

/-- Removes files of a directory that were found there. -/
def removeAll (t : FileTree) (dir : Path) (names : List String) : FileTree :=
  names.foldl (fun t name =>
    match t.remove (dir.entry name) with
    | .ok t' => t'
    | .error _ => t) t

/-! ## Artifacts -/

/-- Whether a file reads as a text already. -/
def isUnchanged (t : FileTree) (p : Path) (source : String) : Except FileError Bool :=
  match t.isFile? p with
  | .error e => .error e
  | .ok false => .ok false
  | .ok true =>
    match t.readText p with
    | .error e => .error e
    | .ok text => .ok (text == source)

/-- Writes one file unless it reads as it should already. -/
def writeFile (t : FileTree) (p : Path) (source : String) : Except FileError (FileTree × Record) :=
  match isUnchanged t p source with
  | .error e => .error e
  | .ok true => .ok (t, report .debug ("Unchanged " ++ p.text))
  | .ok false =>
    match t.write p source.toUTF8 with
    | .error e => .error e
    | .ok t' => .ok (t', report .info ("Wrote " ++ p.text))

/-- Writes files one after the other, up to the first one that fails. -/
def writeFiles (t : FileTree) (dir : Path) : Artifacts → Written
  | [] => ⟨.ok [], t, []⟩
  | (name, source) :: rest =>
    let p := dir.entry name
    match writeFile t p source with
    | .error e => ⟨.error e, t, []⟩
    | .ok (t', r) =>
      let w := writeFiles t' dir rest
      ⟨w.outcome.map (p :: ·), w.tree, r :: w.log⟩

/-- Makes a directory hold the artifacts and no other compiled module.  A module is removed as soon
as it is found, which comes to the same as removing all of them after the search: no answer about
one name depends on the files under others. -/
def write (t : FileTree) (dir : Path) (artifacts : Artifacts) : Written :=
  let searched := staleNames t artifacts dir
  let cleared := removeAll t dir searched.1
  let removed := searched.1.map fun name =>
    report .info ("Removed stale " ++ (dir.entry name).text)
  match searched.2 with
  | .error e => ⟨.error e, cleared, removed⟩
  | .ok () =>
    match cleared.makeDirs dir with
    | (t', .error e) => ⟨.error e, t', removed⟩
    | (t', .ok ()) =>
      let w := writeFiles t' dir artifacts
      {w with log := removed ++ w.log}

end StringCatalog.Package
