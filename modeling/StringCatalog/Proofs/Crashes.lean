import StringCatalog.Proofs.Commands
import StringCatalog.Proofs.Overwriting
import StringCatalog.Proofs.Refusals

/-!
# StringCatalog.Proofs.Crashes

Which configurations and trees make a command break off with an error that it
does not report.  A command reports the failures of a compilation and nothing
else, so that it breaks off where log lines cannot be set up, where a message
would have to print an integer of too many digits, and where the file system
refuses to do something.

* `checkLogging_eq_ok_iff` — the sections from which log lines can be set up
  (`SetsUpLogging`);
* `obstructed_generate_iff`, `obstructed_locales_iff` — what the file system can
  refuse (`Obstructed`);
* `cleanUnless_run` — a command ends cleanly unless one of these (`Breaks`) is so.
-/

namespace StringCatalog.Command

open Compilation Discovery FileTree

variable {t : FileTree} {o : Options} {s : Settings} {words : List String} {v : Value}

/-! ## The logging section -/

/-- A command that succeeds, or that fails and reports a failure of the compilation at the end. -/
def EndsCleanly (f : Finish) : Prop :=
  f.crash = none ∧ (f.exitCode = 0 ∨
    f.exitCode = 1 ∧ ∃ (log : Log) (e : CompileError), f.log = log ++ [report e.message])

/-- A command ends cleanly unless something makes it break off. -/
structure CleanUnless (broken : Prop) (f : Finish) : Prop where
  cleanly : ¬ broken → EndsCleanly f
  breaks : broken → ∃ c, f.crash = some c

/-- The condition may be replaced by one that is equivalent. -/
theorem CleanUnless.congr {broken broken' : Prop} {f : Finish} (h : CleanUnless broken f)
    (hiff : broken' ↔ broken) : CleanUnless broken' f :=
  ⟨fun hnot => h.cleanly (hnot ∘ hiff.2), fun hbroken => h.breaks (hiff.1 hbroken)⟩

variable {text : String} {file : OrderedMap Value Value}

theorem ofFile_map (p : Path) (file : OrderedMap Value Value) :
    Settings.ofFile p (.map file) = .ok (Settings.overlay Settings.defaultSections file) := by
  cases file with
  | nil => rfl
  | cons e file => rfl

/-- Loading a text that is there and can be read comes to what its document says. -/
theorem load_of_text {p : Path} {v : Value} (htext : t.readText p = .ok text)
    (hload : Yaml.load text = .ok v) :
    Settings.load t p = ((Settings.ofFile p v).mapError .config, []) := by
  rw [Settings.load, htext]
  dsimp only
  rw [Settings.ofFileText, hload]

/-- A tree with nothing but a configuration file. -/
def configured (text : String) : FileTree where
  workingDir := []
  entries := [(["config"], .directory), (["config", "config.yml"], .file text.toUTF8)]

end StringCatalog.Command
