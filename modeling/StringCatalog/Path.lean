import StringCatalog.Text.Split

/-!
# StringCatalog.Path

Paths as they are written: where they start and the names that follow.  Slashes
in a row count as one and `.` names nothing; `..` stays, because only the
directory that it leaves says where it leads.

* `join_of_relative` — a path that does not start at the root is appended.
-/

namespace StringCatalog

open Text

/-- Where a path starts: at the working directory or at the root.  A root of exactly two slashes is
written apart. -/
inductive Anchor where
  | relative
  | root
  | doubleRoot
  deriving DecidableEq, Repr

/-- What a path of this start is written with. -/
def Anchor.text : Anchor → String
  | .relative => ""
  | .root => "/"
  | .doubleRoot => "//"

structure Path where
  anchor : Anchor
  names : List String
  deriving DecidableEq, Repr

namespace Path

def anchorOf : List Char → Anchor
  | '/' :: '/' :: '/' :: _ => .root
  | '/' :: '/' :: _ => .doubleRoot
  | '/' :: _ => .root
  | _ => .relative

def ofString (s : String) : Path :=
  ⟨anchorOf s.toList, (splitText '/' s).filter fun n => n ≠ "" && n ≠ "."⟩

/-- Whether a path starts at the root. -/
def isAbsolute (p : Path) : Bool := p.anchor ≠ .relative

/-- Goes on from `p` along `q`. -/
def join (p q : Path) : Path :=
  if q.isAbsolute then q else ⟨p.anchor, p.names ++ q.names⟩

/-- Goes on along a written path. -/
def child (p : Path) (s : String) : Path := p.join (ofString s)

/-- Goes on to a name directly below. -/
def entry (p : Path) (name : String) : Path := ⟨p.anchor, p.names ++ [name]⟩

def text (p : Path) : String :=
  if p.anchor = .relative && p.names.isEmpty then "."
  else p.anchor.text ++ "/".intercalate p.names

instance : ToString Path := ⟨text⟩

def parent (p : Path) : Path := ⟨p.anchor, p.names.dropLast⟩

/-- A path that does not start at the root is appended. -/
theorem join_of_relative (p : Path) {q : Path} (h : q.anchor = .relative) :
    p.join q = ⟨p.anchor, p.names ++ q.names⟩ := by
  simp [join, isAbsolute, h]

/-- Removes `.` and resolves `..` by name alone, from the root. -/
def normalNames (names : List String) : List String :=
  names.foldl (fun acc n => if n = ".." then acc.dropLast else acc ++ [n]) []

/-- The path from the root that `p` means in a working directory, with `..` resolved by name. -/
def absolute (cwd : List String) (p : Path) : Path :=
  if p.isAbsolute then ⟨p.anchor, normalNames p.names⟩
  else ⟨.root, normalNames (cwd ++ p.names)⟩

end Path

end StringCatalog
