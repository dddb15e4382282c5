import StringCatalog.Catalog.Document
import StringCatalog.Failure
import StringCatalog.FileTree
import StringCatalog.Markup.Document

/-!
# StringCatalog.Catalog.Load

Catalogs from the files of a tree.
-/

namespace StringCatalog

open Markup

namespace Catalog

def documentAt (t : FileTree) (p : Path) : Except ReadCause Element :=
  match t.read p with
  | .error _ => .error .unreadable
  | .ok content =>
    match readBytes content.toList with
    | .ok root => .ok root
    | .error .malformed => .error .malformed
    | .error .damaged => .error .unreadable

def report (level : Level) (message : String) : Record := ⟨.catalog, level, message⟩

/-- The catalog in a file, and what is reported of it. -/
def load (t : FileTree) (p : Path) : Except ReadCause Catalog × Log :=
  let start := report .debug ("Parsing " ++ p.text)
  match documentAt t p with
  | .error cause =>
    (.error cause, [start, report .error ("Error parsing " ++ p.text ++ ": <cause>")])
  | .ok root =>
    let c := ofDocument root
    let done := report .debug ("Parsed " ++ toString c.length ++ " entries from " ++ p.text)
    (.ok c, start :: documentReport p root ++ [done])

end Catalog

end StringCatalog
