import StringCatalog.Settings

/-!
# StringCatalog.Settings.Overlay

A configuration file on top of the defaults.  A section of the file extends
the default section of that name key by key when both are maps, and replaces it
otherwise.
-/

namespace StringCatalog

namespace Settings

/-- How log lines look unless the file says otherwise. -/
def defaultFormat : String := "%(asctime)s [%(levelname)s] %(name)s: %(message)s"

def defaultSections : OrderedMap Value Value := [
  (.text "logging", .map [
    (.text "level", .text "INFO"),
    (.text "format", .text defaultFormat),
    (.text "datefmt", .text "%Y-%m-%d %H:%M:%S")]),
  (.text "localization", .map (List.map (fun e => (.text e.1, e.2)) defaults))]

/-- What a section becomes under the value that a file gives for it. -/
def overlaySection (section? : Option Value) (given : Value) : Value :=
  match section?, given with
  | some (.map entries), .map new => .map (OrderedMap.putAll entries new)
  | _, v => v

/-- Sections with the sections of a file on top. -/
def overlay (sections file : OrderedMap Value Value) : OrderedMap Value Value :=
  file.foldl (fun acc e => acc.put e.1 (overlaySection (acc.get? e.1) e.2)) sections

/-- The sections that hold under what a file was read as; an empty file changes nothing. -/
def ofFile (path : Path) (loaded : Value) : Except ConfigError (OrderedMap Value Value) :=
  if loaded.isFalsy then .ok defaultSections
  else
    match loaded with
    | .map sections => .ok (overlay defaultSections sections)
    | _ => .error (.fileNotMap path)

end Settings

end StringCatalog
