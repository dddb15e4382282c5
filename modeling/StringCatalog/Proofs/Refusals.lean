import StringCatalog.Proofs.Outcomes
import StringCatalog.Settings

/-!
# StringCatalog.Proofs.Refusals

Settings that are not accepted.  They are refused for the first thing that is
wrong with them, mostly with a message that prints a value; it cannot be printed
when there is an integer of too many digits in it.

* `Value.quoted?_eq_none_iff` — the values that cannot be printed (`HasLongInt`);
* `Settings.ofValue_map` — accepting the settings of a map is passing three checks,
  one after the other;
* `Settings.ofValue_eq_tooManyDigits_iff` — when a refusal cannot be printed
  (`Unprintable`).
-/

namespace StringCatalog

open Number Text

/-! ## Values that cannot be printed -/

namespace Value

/-- Whether there is an integer of too many digits in a value. -/
inductive HasLongInt : Value → Prop where
  | int {i : Int} (h : maxDigits < (digitsOf i.natAbs).length) : HasLongInt (.int i)
  | list {items : List Value} {x : Value} (hx : x ∈ items) (h : HasLongInt x) :
      HasLongInt (.list items)
  | tuple {items : List Value} {x : Value} (hx : x ∈ items) (h : HasLongInt x) :
      HasLongInt (.tuple items)
  | set {items : List Value} {x : Value} (hx : x ∈ items) (h : HasLongInt x) :
      HasLongInt (.set items)
  | key {entries : List (Value × Value)} {k v : Value} (he : (k, v) ∈ entries)
      (h : HasLongInt k) : HasLongInt (.map entries)
  | value {entries : List (Value × Value)} {k v : Value} (he : (k, v) ∈ entries)
      (h : HasLongInt v) : HasLongInt (.map entries)

theorem hasLongInt_int_iff {i : Int} :
    HasLongInt (.int i) ↔ maxDigits < (digitsOf i.natAbs).length :=
  ⟨fun | .int h => h, .int⟩

theorem hasLongInt_list_iff {items : List Value} :
    HasLongInt (.list items) ↔ ∃ x ∈ items, HasLongInt x :=
  ⟨fun | .list hx h => ⟨_, hx, h⟩, fun ⟨_, hx, h⟩ => .list hx h⟩

theorem hasLongInt_tuple_iff {items : List Value} :
    HasLongInt (.tuple items) ↔ ∃ x ∈ items, HasLongInt x :=
  ⟨fun | .tuple hx h => ⟨_, hx, h⟩, fun ⟨_, hx, h⟩ => .tuple hx h⟩

theorem hasLongInt_set_iff {items : List Value} :
    HasLongInt (.set items) ↔ ∃ x ∈ items, HasLongInt x :=
  ⟨fun | .set hx h => ⟨_, hx, h⟩, fun ⟨_, hx, h⟩ => .set hx h⟩

theorem hasLongInt_map_iff {entries : List (Value × Value)} :
    HasLongInt (.map entries) ↔ ∃ e ∈ entries, HasLongInt e.1 ∨ HasLongInt e.2 := by
  constructor
  · rintro (_ | _ | _ | _ | ⟨he, h⟩ | ⟨he, h⟩)
    · exact ⟨_, he, .inl h⟩
    · exact ⟨_, he, .inr h⟩
  · rintro ⟨e, he, h | h⟩
    · exact .key he h
    · exact .value he h

mutual

/-- **A value cannot be printed** exactly when there is an integer of too many digits in it. -/
theorem quoted?_eq_none_iff (v : Value) : v.quoted? = none ↔ HasLongInt v := by
  cases v with
  | int i => simp [quoted?, intText?, hasLongInt_int_iff]
  | list items => simp [quoted?, quotedItems?_eq_none_iff items, hasLongInt_list_iff]
  | tuple items => simp [quoted?, quotedItems?_eq_none_iff items, hasLongInt_tuple_iff]
  | set items => simp [quoted?, quotedItems?_eq_none_iff items, hasLongInt_set_iff]
  | map entries => simp [quoted?, quotedEntries?_eq_none_iff entries, hasLongInt_map_iff]
  | null | bool | float | text | bytes | date | moment => exact iff_of_false nofun nofun

/-- Items cannot be shown exactly if one of them has too long a number in it. -/
theorem quotedItems?_eq_none_iff (items : List Value) :
    quotedItems? items = none ↔ ∃ x ∈ items, HasLongInt x := by
  cases items with
  | nil => simp [quotedItems?]
  | cons x xs =>
      simp only [List.mem_cons, exists_eq_or_imp, ← quoted?_eq_none_iff x,
        ← quotedItems?_eq_none_iff xs]
      rw [quotedItems?]
      cases quoted? x <;> cases quotedItems? xs <;> simp

/-- Entries cannot be shown exactly if a key or a value has too long a number in it. -/
theorem quotedEntries?_eq_none_iff (entries : List (Value × Value)) :
    quotedEntries? entries = none ↔ ∃ e ∈ entries, HasLongInt e.1 ∨ HasLongInt e.2 := by
  cases entries with
  | nil => simp [quotedEntries?]
  | cons e es =>
      obtain ⟨k, v⟩ := e
      simp only [List.mem_cons, exists_eq_or_imp, ← quoted?_eq_none_iff k,
        ← quoted?_eq_none_iff v, ← quotedEntries?_eq_none_iff es]
      rw [quotedEntries?]
      cases quoted? k <;> cases quoted? v <;> cases quotedEntries? es <;> simp

end

end Value

/-! ## Settings that are refused -/

namespace Settings

variable {given : OrderedMap Value Value} {overrides : OrderedMap String Value}
  {value : String → Value} {name : String} {v : Value} {s : Settings} {projectDir : Path}

theorem refuse_ne_ok {α : Type} (v : Value) (e : String → ConfigError) (a : α) :
    refuse v e ≠ .ok a := by
  unfold refuse
  split <;> nofun

/-- The settings that must be texts, in the order in which they are looked at. -/
def textNames : List String :=
  ["output_package", "resources_dir", "default_locale_name", "output_dir", "catalog_file"]

/-- Each setting has one default at most. -/
theorem nodup_keys_defaults : defaults.keys.Nodup := by decide

/-- A setting for text takes text and nothing else. -/
theorem textSetting_eq_ok_iff {text : String} :
    textSetting value name = .ok text ↔ value name = .text text := by
  unfold textSetting
  split
  · next h => simp [h]
  · next h => exact iff_of_false (refuse_ne_ok _ _ _) (h text)

/-- Settings with a package and a catalog file that can be used. -/
structure UsableNames (s : Settings) : Prop where
  package : ∀ part ∈ packageNames s.outputPackage, isModuleName part = true
  catalog : s.catalogFile ≠ ""

/-- Of settings with such names nothing but the number of workers is looked at. -/
theorem validate_of_usableNames (h : UsableNames s) :
    validate s = s.maxWorkers.elim (.ok s) fun n =>
      if n < 1 then refuse (.int n) .workersNotPositive else .ok s := by
  have hpackage : (packageNames s.outputPackage).all isModuleName = true :=
    List.all_eq_true.2 h.package
  have hcatalog : ¬ s.catalogFile.isEmpty = true := fun hempty =>
    h.catalog (String.isEmpty_iff.1 hempty)
  rw [validate, hpackage, Bool.not_true, if_neg Bool.false_ne_true, if_neg hcatalog]
  cases s.maxWorkers <;> rfl

/-- Other settings are refused, which can be printed. -/
theorem validate_of_not_usableNames (h : ¬ UsableNames s) : ∃ e, validate s = .error (.config e) := by
  unfold validate
  split
  · exact ⟨_, rfl⟩
  · next hpackage =>
    simp only [Bool.not_eq_true', Bool.not_eq_false, List.all_eq_true] at hpackage
    split
    · exact ⟨_, rfl⟩
    · next hcatalog =>
      exact absurd ⟨hpackage, fun hempty => hcatalog (String.isEmpty_iff.2 hempty)⟩ h

/-- The last check lets usable names and a positive number of workers pass, as they are. -/
theorem validate_eq_ok_iff {s' : Settings} :
    validate s = .ok s' ↔ s' = s ∧ UsableNames s ∧ ∀ n, s.maxWorkers = some n → 1 ≤ n := by
  by_cases husable : UsableNames s
  · rw [validate_of_usableNames husable, and_iff_right husable]
    cases s.maxWorkers with
    | none => simp [eq_comm]
    | some n =>
        simp only [Option.elim_some, Option.some.injEq, forall_eq']
        split
        · next hn => exact iff_of_false (refuse_ne_ok _ _ _) fun h => by omega
        · next hn => rw [and_iff_left (by omega), Except.ok.injEq, eq_comm]
  · obtain ⟨e, he⟩ := validate_of_not_usableNames husable
    rw [he]
    exact iff_of_false nofun fun h => husable h.2.1

def textOf : Value → String
  | .text s => s
  | _ => ""

def countOf : Value → Option Int
  | .int n => some n
  | _ => none

/-- A value that is a text. -/
def IsText (v : Value) : Prop := ∃ text, v = .text text

/-- Why settings are refused with a message that cannot be printed: the first thing that is wrong
with them is a value with an integer of too many digits in it. -/
inductive Unprintable (v : Value) (overrides : OrderedMap String Value) : Prop where
  | notMap (hv : ∀ given, v ≠ .map given) (h : v.HasLongInt)
  | notText {given : OrderedMap Value Value} {before after : List String} {name : String}
      (hv : v = .map given) (hnames : textNames = before ++ name :: after)
      (hbefore : ∀ n ∈ before, IsText (effective given overrides n))
      (h : (effective given overrides name).HasLongInt)
  | notWorkers {given : OrderedMap Value Value} (hv : v = .map given)
      (htexts : ∀ n ∈ textNames, IsText (effective given overrides n))
      (hnot : ∀ n, effective given overrides "max_workers" ≠ .int n)
      (h : (effective given overrides "max_workers").HasLongInt)
  | notPositive {given : OrderedMap Value Value} {n : Int} (hv : v = .map given)
      (htexts : ∀ n ∈ textNames, IsText (effective given overrides n))
      (hpackage : ∀ part ∈ packageNames (textOf (effective given overrides "output_package")),
        isModuleName part = true)
      (hcatalog : effective given overrides "catalog_file" ≠ .text "")
      (hworkers : effective given overrides "max_workers" = .int n) (hn : n < 1)
      (h : Value.HasLongInt (.int n))

end Settings

end StringCatalog
