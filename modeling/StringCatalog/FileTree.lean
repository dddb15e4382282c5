import StringCatalog.OrderedMap
import StringCatalog.Path
import StringCatalog.Text.Lines

/-!
# StringCatalog.FileTree

Directories and files as a map from locations to what is there, and the
operations of a file system on it.  A path is followed name by name from the
working directory or the root; every name but the last must lead to a directory,
and `..` leads to the directory that holds the one reached so far.

* `entryAt_put_self`, `entryAt_put_of_ne` — a write changes one location only.
-/

namespace StringCatalog

open Text

/-- A place in a tree: the names from the root. -/
abbrev Location := List String

/-- What is at a location. -/
inductive FileEntry where
  | file (content : ByteArray)
  | directory

/-- Entries are equal when they are of one sort and files have the same bytes. -/
instance : DecidableEq FileEntry
  | .directory, .directory => isTrue rfl
  | .directory, .file _ => isFalse nofun
  | .file _, .directory => isFalse nofun
  | .file a, .file b =>
    match ByteArray.instDecidableEq a b with
    | isTrue h => isTrue (congrArg FileEntry.file h)
    | isFalse h => isFalse fun e => h (FileEntry.file.inj e)

/-- A tree with a working directory.  The root is always a directory. -/
structure FileTree where
  entries : OrderedMap Location FileEntry
  workingDir : Location

/-- Why an operation on a tree fails. -/
inductive FileError where
  | notFound
  | notADirectory
  | isADirectory
  | alreadyExists
  | nameTooLong
  | embeddedNull
  | undecodable
  deriving DecidableEq, Repr

namespace FileTree

/-! ## Following paths -/

def maxNameBytes : Nat := 255

def maxPathBytes : Nat := 4095

def entryAt (t : FileTree) (loc : Location) : Option FileEntry :=
  if loc.isEmpty then some .directory else t.entries.get? loc

/-- Follows names from a location. -/
def walk (t : FileTree) (loc : Location) : List String → Except FileError Location
  | [] => .ok loc
  | name :: names =>
    match t.entryAt loc with
    | none => .error .notFound
    | some (.file _) => .error .notADirectory
    | some .directory =>
      if name.utf8ByteSize > maxNameBytes then .error .nameTooLong
      else walk t (if name = ".." then loc.dropLast else loc ++ [name]) names

/-- The location that a path leads to, whether anything is there or not. -/
def locate (t : FileTree) (p : Path) : Except FileError Location :=
  if p.text.toList.contains '\x00' then .error .embeddedNull
  else if p.text.utf8ByteSize > maxPathBytes then .error .nameTooLong
  else t.walk (if p.isAbsolute then [] else t.workingDir) p.names

/-- What is at the end of a path. -/
def find (t : FileTree) (p : Path) : Except FileError FileEntry := do
  match t.entryAt (← t.locate p) with
  | some e => .ok e
  | none => .error .notFound

/-! ## Questions -/

/-- Whether a path leads to an entry of some sort; a path that cannot be followed leads nowhere,
unless one of its names is too long. -/
def test (t : FileTree) (p : Path) (sort : FileEntry → Bool) : Except FileError Bool :=
  match t.find p with
  | .ok e => .ok (sort e)
  | .error .nameTooLong => .error .nameTooLong
  | .error _ => .ok false

/-- Whether there is anything at the end of a path. -/
def exists? (t : FileTree) (p : Path) : Except FileError Bool := t.test p fun _ => true

/-- Whether there is a directory at the end of a path. -/
def isDirectory? (t : FileTree) (p : Path) : Except FileError Bool :=
  t.test p fun | .directory => true | .file _ => false

/-- Whether there is a file at the end of a path. -/
def isFile? (t : FileTree) (p : Path) : Except FileError Bool :=
  t.test p fun | .directory => false | .file _ => true

/-- Names in the order of their code points. -/
def sortNames (names : List String) : List String := names.mergeSort fun a b => a ≤ b

def namesAt (t : FileTree) (loc : Location) : List String :=
  sortNames (t.entries.filterMap fun e => if e.1.dropLast = loc then e.1.getLast? else none)

/-- The names directly in a directory, sorted. -/
def names (t : FileTree) (p : Path) : Except FileError (List String) := do
  let loc ← t.locate p
  match t.entryAt loc with
  | some .directory => .ok (t.namesAt loc)
  | some (.file _) => .error .notADirectory
  | none => .error .notFound

/-- The bytes of a file. -/
def read (t : FileTree) (p : Path) : Except FileError ByteArray := do
  match ← t.find p with
  | .file content => .ok content
  | .directory => .error .isADirectory

/-- The text of bytes, with every line end as a line feed. -/
def textOf? (content : ByteArray) : Option String :=
  (String.fromUTF8? content).map fun s => String.ofList (unifyLineEnds s.toList)

def readText (t : FileTree) (p : Path) : Except FileError String := do
  match textOf? (← t.read p) with
  | some s => .ok s
  | none => .error .undecodable

/-! ## Changes -/

def put (t : FileTree) (loc : Location) (e : FileEntry) : FileTree :=
  {t with entries := t.entries.put loc e}

/-- What was put at a location is there. -/
theorem entryAt_put_self (t : FileTree) {loc : Location} (e : FileEntry) (h : loc ≠ []) :
    (t.put loc e).entryAt loc = some e := by
  have : loc.isEmpty = false := by simpa using h
  simp [entryAt, put, this, OrderedMap.get?_put_self]

/-- Other locations stay as they are. -/
theorem entryAt_put_of_ne (t : FileTree) {loc other : Location} (e : FileEntry) (h : other ≠ loc) :
    (t.put loc e).entryAt other = t.entryAt other := by
  simp [entryAt, put, OrderedMap.get?_put_of_ne t.entries e h]

/-- Takes a location out of the tree, with everything below it. -/
def erase (t : FileTree) (loc : Location) : FileTree :=
  {t with entries := t.entries.filter fun e => !loc.isPrefixOf e.1}

/-- Writes a file in a directory that is there. -/
def write (t : FileTree) (p : Path) (content : ByteArray) : Except FileError FileTree := do
  let loc ← t.locate p
  match t.entryAt loc with
  | some .directory => .error .isADirectory
  | _ => .ok (t.put loc (.file content))

/-- Makes one directory in a directory that is there. -/
def makeDir (t : FileTree) (p : Path) : Except FileError FileTree := do
  let loc ← t.locate p
  match t.entryAt loc with
  | some _ => .error .alreadyExists
  | none => .ok (t.put loc .directory)

/-- A directory that cannot be made is all right when it is there. -/
def acceptExisting (t : FileTree) (p : Path) (e : FileError) : Except FileError Unit :=
  match t.isDirectory? p with
  | .ok true => .ok ()
  | .ok false => .error e
  | .error e' => .error e'

/-- Makes a directory and those that it lies in, as far as they are missing.  What was made before
something fails stays. -/
def makeDirs (t : FileTree) (p : Path) : FileTree × Except FileError Unit :=
  match t.makeDir p with
  | .ok t' => (t', .ok ())
  | .error .notFound =>
    if _h : p.names = [] then (t, .error .notFound)
    else
      match makeDirs t p.parent with
      | (t', .error e) => (t', .error e)
      | (t', .ok ()) =>
        match t'.makeDir p with
        | .ok t'' => (t'', .ok ())
        | .error .notFound => (t', .error .notFound)
        | .error e => (t', t'.acceptExisting p e)
  | .error e => (t, t.acceptExisting p e)
termination_by p.names.length
decreasing_by
  simp only [Path.parent, List.length_dropLast]
  have := List.length_pos_iff.2 _h
  omega

/-- Removes what is at the end of a path, if anything is. -/
def remove (t : FileTree) (p : Path) : Except FileError FileTree := do
  let loc ← t.locate p
  match t.entryAt loc with
  | some _ => .ok (t.erase loc)
  | none => .error .notFound

/-- Everything below a directory, relative to it, directories with a slash behind them; a path that
leads to no directory has nothing below it. -/
def listing (t : FileTree) (p : Path) : List String :=
  match t.locate p with
  | .error _ => []
  | .ok loc =>
    match t.entryAt loc with
    | some .directory =>
      sortNames (t.entries.filterMap fun e =>
        if loc.isPrefixOf e.1 && e.1 ≠ loc then
          let below := "/".intercalate (e.1.drop loc.length)
          some (match e.2 with | .directory => below ++ "/" | .file _ => below)
        else none)
    | _ => []

/-- A tree that holds nothing but its working directory. -/
def new (workingDir : Location) : FileTree :=
  ⟨(List.range workingDir.length).map fun i => (workingDir.take (i + 1), .directory), workingDir⟩

end FileTree

end StringCatalog
