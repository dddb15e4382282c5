import StringCatalog.Command

/-!
# StringCatalog.Main

The command line on the directories and files of the machine.  What a command
looks at is taken into a tree, the command runs on the tree, and what it changed
there is carried out.
-/

namespace StringCatalog.Command

/-! ## From the machine -/

def absoluteText (loc : Location) : String := "/" ++ "/".intercalate loc

/-- What the machine has at a location. -/
def entryOnDisk (loc : Location) : IO (Option FileEntry) := do
  try
    let place ← IO.FS.realPath (absoluteText loc)
    if ← place.isDir then return some .directory
    return some (.file (← IO.FS.readBinFile place))
  catch _ => return none

/-- Takes in what lies along some names from a location. -/
def takeNames (t : FileTree) (loc : Location) : List String → IO FileTree
  | [] => return t
  | name :: names => do
    let loc := if name = ".." then loc.dropLast else loc ++ [name]
    match ← entryOnDisk loc with
    | some e => takeNames (t.put loc e) loc names
    | none => return t

/-- Takes in what lies along a path. -/
def takePath (t : FileTree) (p : Path) : IO FileTree :=
  takeNames t (if p.isAbsolute then [] else t.workingDir) p.names

/-- Takes in a directory, and for each name in it a path. -/
def takeBelow (t : FileTree) (dir : Path) (along : String → Path) : IO FileTree := do
  let t ← takePath t dir
  try
    let names ← (← IO.FS.realPath dir.text).readDir
    names.foldlM (fun t e => takePath t (along e.fileName)) t
  catch _ => return t

/-- Takes in what a command with these settings looks at. -/
def takeProject (t : FileTree) (s : Settings) : IO FileTree := do
  let t ← takeBelow t s.resourcesDir fun name =>
    let directory := s.resourcesDir.entry name
    if name.startsWith Discovery.defaultDirectory then directory.child s.catalogFile else directory
  takeBelow t s.packageDir s.packageDir.entry

/-- The tree that a command line works on. -/
def takeTree (words : List String) : IO FileTree := do
  let t := FileTree.new (Path.ofString (toString (← IO.currentDir))).names
  match Request.ofWords words with
  | .run _ o =>
    let t ← takePath t (configPath t o)
    match (settingsOf t o).1 with
    | .ok s => takeProject t s
    | .error _ => return t
  | _ => return t

/-! ## To the machine -/

/-- Carries out the changes from one tree to another. -/
def carryOut (before after : FileTree) : IO Unit := do
  for (loc, _) in before.entries do
    if (after.entryAt loc).isNone then IO.FS.removeFile (absoluteText loc)
  for (loc, e) in after.entries do
    if before.entryAt loc ≠ some e then
      match e with
      | .directory => IO.FS.createDirAll (absoluteText loc)
      | .file content => IO.FS.writeBinFile (absoluteText loc) content

def fileErrorMessage : FileError → String
  | .notFound => "no such file or directory"
  | .notADirectory => "not a directory"
  | .isADirectory => "is a directory"
  | .alreadyExists => "file exists"
  | .nameTooLong => "file name too long"
  | .embeddedNull => "embedded null byte"
  | .undecodable => "not valid UTF-8"

def Crash.message : Crash → String
  | .file e => fileErrorMessage e
  | .scalar e => e.message
  | .logging e => e.message
  | .tooManyDigits => Value.digitLimitMessage

/-- What is said where the words of a command line cannot be understood. -/
def usage : String := "usage: (generate | locales) [--OPTION VALUE]...\n" ++
  "options: --config-folder --project-dir --resources-dir --default-locale-name\n" ++
  "         --output-package --output-dir"

/-- Runs a command line on the machine and gives its exit code. -/
def runOnDisk (words : List String) : IO UInt32 := do
  let t ← takeTree words
  let finish := run t words
  carryOut t finish.tree
  for r in finish.log do
    if r.level.isAlert then IO.eprintln (r.level.label ++ " " ++ r.message)
  for line in finish.output do
    IO.println line
  match finish.crash with
  | some c => IO.eprintln c.message
  | none => pure ()
  match Request.ofWords words with
  | .help => IO.println usage
  | .usageError => IO.eprintln usage
  | .run .. => pure ()
  return finish.exitCode.toUInt32

end StringCatalog.Command

/-- The command line. -/
def main (words : List String) : IO UInt32 := StringCatalog.Command.runOnDisk words
