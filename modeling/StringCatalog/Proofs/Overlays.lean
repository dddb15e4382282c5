import StringCatalog.Proofs.Crashes
import StringCatalog.Proofs.LoadedMaps

/-!
# StringCatalog.Proofs.Overlays

What a configuration file makes of the defaults.  Its sections are written onto
the default ones from left to right, and so are the entries of a section; what
is there in the end is told without the order of the writes.

* `OrderedMap.combineAll_eq` — writes leave the entries of a map in their places,
  and put new ones behind them;
* `Settings.overlay_eq_sectionsUnder` — the sections that hold under a file;
* `Settings.isFalsy_eq_true_iff` — the values that are taken for a file without
  content (`CountsAsEmpty`);
* `Settings.load_overlays` — what becomes of every file (`LoadsAs`).

Keys are told apart by value, so that a number may name the entry of another
one.  The defaults have texts for keys, which name nothing but themselves
(`IsPlain`); the keys of a file are apart since a map was made of them
(`Yaml.isKeyed_of_load`).
-/

namespace StringCatalog

namespace OrderedMap

variable {κ : Type u} {α : Type v} {β : Type w} [BEq κ] {f : Option α → β → α}

/-! ## Writes onto a map -/

/-- Writes entries from left to right, where the value that is written may come of the one that it
replaces. -/
def combineAll (f : Option α → β → α) (m : OrderedMap κ α) (entries : List (κ × β)) :
    OrderedMap κ α :=
  entries.foldl (fun acc e => acc.put e.1 (f (acc.get? e.1) e.2)) m

theorem putAll_eq_combineAll (m entries : OrderedMap κ α) :
    m.putAll entries = m.combineAll (fun _ v => v) entries := rfl

/-- The first entry takes the values of its own key, and the others are left to the rest. -/
theorem combineAll_cons (k : κ) (v : α) (m : OrderedMap κ α) (entries : List (κ × β)) :
    combineAll f ((k, v) :: m) entries =
      (k, (entries.filter fun e => k == e.1).foldl (fun a e => f (some a) e.2) v) ::
        combineAll f m (entries.filter fun e => !(k == e.1)) := by
  induction entries generalizing v m with
  | nil => rfl
  | cons e rest ih =>
      cases hkey : k == e.1 with
      | true =>
          have hstep : combineAll f ((k, v) :: m) (e :: rest) =
              combineAll f ((k, f (some v) e.2) :: m) rest := by
            simp [combineAll, put, get?, hkey]
          rw [hstep, ih]
          simp [hkey]
      | false =>
          have hstep : combineAll f ((k, v) :: m) (e :: rest) =
              combineAll f ((k, v) :: m.put e.1 (f (m.get? e.1) e.2)) rest := by
            simp [combineAll, put, get?, hkey]
          rw [hstep, ih]
          simp [hkey, combineAll]

/-- No entry is left under a key that differs from all of theirs. -/
theorem filter_eq_nil_of_apart {k : κ} {entries : OrderedMap κ β}
    (h : ∀ e ∈ entries, (k == e.1) = false) : (entries.filter fun e => k == e.1) = [] :=
  List.filter_eq_nil_iff.2 fun e he => by simp [h e he]

/-- Entries with keys of their own are written one behind the other. -/
theorem combineAll_nil {entries : OrderedMap κ β} (h : KeysApart entries) :
    combineAll f [] entries = List.map (fun e => (e.1, f none e.2)) entries := by
  induction entries with
  | nil => rfl
  | cons e rest ih =>
      rw [KeysApart, List.pairwise_cons] at h
      have hothers : (rest.filter fun e' => !(e.1 == e'.1)) = rest :=
        List.filter_eq_self.2 fun e' he' => by simp [h.1 e' he']
      have hcons := combineAll_cons (f := f) e.1 (f none e.2) [] rest
      rw [filter_eq_nil_of_apart h.1, hothers, ih h.2] at hcons
      exact hcons

/-- A key that the test of keys takes for no other one. -/
structure IsPlain (k : κ) : Prop where
  left : ∀ k', (k == k') = true ↔ k = k'
  right : ∀ k', (k' == k) = true ↔ k' = k

/-- Of entries with keys of their own, one at most is for a plain key. -/
theorem foldl_filter_of_isPlain {k : κ} (hk : IsPlain k) {entries : OrderedMap κ β}
    (h : KeysApart entries) (g : α → β → α) (v : α) :
    (entries.filter fun e => k == e.1).foldl (fun a e => g a e.2) v =
      (entries.get? k).elim v (g v) := by
  induction entries with
  | nil => rfl
  | cons e rest ih =>
      rw [KeysApart, List.pairwise_cons] at h
      by_cases hkey : k = e.1
      · subst hkey
        have hself : (e.1 == e.1) = true := (hk.left e.1).2 rfl
        simp [get?, hself, filter_eq_nil_of_apart h.1]
      · have hleft : (k == e.1) = false := Bool.eq_false_iff.2 fun h => hkey ((hk.left e.1).1 h)
        have hright : (e.1 == k) = false :=
          Bool.eq_false_iff.2 fun h => hkey ((hk.right e.1).1 h).symm
        simpa [get?, hleft, hright] using ih h.2

/-- **What writes onto a map leave behind**: its own entries, each with what is written under its key,
and then the entries under new keys. -/
theorem combineAll_eq {m : OrderedMap κ α} {entries : OrderedMap κ β}
    (hplain : ∀ e ∈ m, IsPlain e.1) (hm : KeysApart m) (h : KeysApart entries) :
    combineAll f m entries =
      List.map (fun e => (e.1, (entries.get? e.1).elim e.2 (f (some e.2)))) m ++
        List.map (fun e => (e.1, f none e.2)) (entries.filter fun e => !m.has e.1) := by
  induction m generalizing entries with
  | nil =>
      have hnew : (entries.filter fun e => !has ([] : OrderedMap κ α) e.1) = entries :=
        List.filter_eq_self.2 fun _ _ => rfl
      rw [combineAll_nil h, hnew]
      rfl
  | cons e m ih =>
      obtain ⟨k, v⟩ := e
      rw [KeysApart, List.pairwise_cons] at hm
      obtain ⟨hk, hplain⟩ := List.forall_mem_cons.1 hplain
      have hrest : KeysApart (entries.filter fun e => !(k == e.1)) := List.Pairwise.filter _ h
      rw [combineAll_cons, foldl_filter_of_isPlain hk h (fun a => f (some a)), ih hplain hm.2 hrest,
        List.map_cons, List.cons_append]
      congr 2
      · refine List.map_congr_left fun e he => ?_
        rw [get?_filter_of_pass fun e' he' => ?_]
        rw [((hplain e he).right e'.1).1 he', hm.1 e he]
        rfl
      · rw [List.filter_filter]
        congr 2
        funext e
        rw [has, has, List.any_cons, Bool.not_or, Bool.and_comm]

/-- A map with another one on top: its own entries, with the values of the other one where that has
any, and then the new ones. -/
def extended (m new : OrderedMap κ α) : OrderedMap κ α :=
  List.map (fun e => (e.1, (new.get? e.1).getD e.2)) m ++ new.filter fun e => !m.has e.1

/-- With plain keys that are apart, writes over a map come to its closed form. -/
theorem putAll_eq_extended {m new : OrderedMap κ α} (hplain : ∀ e ∈ m, IsPlain e.1)
    (hm : KeysApart m) (h : KeysApart new) : m.putAll new = m.extended new := by
  rw [putAll_eq_combineAll, combineAll_eq hplain hm h, extended]
  congr 1
  · refine List.map_congr_left fun e _ => ?_
    cases new.get? e.1 <;> rfl
  · exact List.map_id _

end OrderedMap

theorem Value.isPlain_text (s : String) : OrderedMap.IsPlain (Value.text s) where
  left v := by
    cases v with
    | text s' => simp
    | _ => exact iff_of_false nofun nofun
  right v := by
    cases v with
    | text s' => simp
    | _ => exact iff_of_false nofun nofun

namespace Settings

open OrderedMap

variable {t : FileTree} {p : Path} {text : String} {v : Value} {file : OrderedMap Value Value}

/-! ## Sections -/

/-- What a default section becomes under what a file says of it, if it says anything. -/
def sectionUnder : (default : Value) → (given : Option Value) → Value
  | .map entries, some (.map new) => .map (extended entries new)
  | _, some given => given
  | default, none => default

/-- The sections that hold under a file: the default ones, and then the new ones. -/
def sectionsUnder (file : OrderedMap Value Value) : OrderedMap Value Value :=
  List.map (fun e => (e.1, sectionUnder e.2 (file.get? e.1))) defaultSections ++
    file.filter fun e => !defaultSections.has e.1

/-- Entries under texts, each text once. -/
structure IsRecord (m : OrderedMap Value Value) : Prop where
  plain : ∀ e ∈ m, IsPlain e.1
  apart : KeysApart m

/-- Texts that are apart make the keys of a record. -/
theorem isRecord_of_nodup {m : OrderedMap String Value} (h : m.keys.Nodup) :
    IsRecord (List.map (fun e => (.text e.1, e.2)) m) where
  plain := List.forall_mem_map.2 fun e _ => Value.isPlain_text e.1
  apart := by
    have hne : m.Pairwise fun a b => a.1 ≠ b.1 := List.pairwise_map.1 h
    exact List.pairwise_map.2 (hne.imp fun hab => by simpa using hab)

/-- The defaults are a record. -/
theorem isRecord_defaultSections : IsRecord defaultSections :=
  isRecord_of_nodup (m := [("logging", _), ("localization", _)]) (by decide)

/-- Every default section is a map of that form itself. -/
theorem exists_record {e : Value × Value} (he : e ∈ defaultSections) :
    ∃ entries, e.2 = .map entries ∧ IsRecord entries := by
  obtain rfl | rfl : e = _ ∨ e = _ := by simpa [defaultSections] using he
  · exact ⟨_, rfl, isRecord_of_nodup (m := [("level", _), ("format", _), ("datefmt", _)])
      (by decide)⟩
  · exact ⟨_, rfl, isRecord_of_nodup nodup_keys_defaults⟩

/-- Writing what a file says of a section is laying it over that section. -/
theorem overlaySection_eq {e : Value × Value} (he : e ∈ defaultSections) {given : Value}
    (hgiven : given.IsKeyed) :
    overlaySection (some e.2) given = sectionUnder e.2 (some given) := by
  obtain ⟨entries, heq, hrecord⟩ := exists_record he
  rw [heq]
  cases hgiven with
  | map hnew =>
      rw [overlaySection, sectionUnder, putAll_eq_extended hrecord.plain hrecord.apart hnew]
  | other h =>
      cases given with
      | map new => exact absurd rfl (h new)
      | _ => rfl

/-- The sections of a file over the defaults, in closed form. -/
theorem overlay_eq_sectionsUnder (hfile : KeysApart file) (hvalues : ∀ e ∈ file, e.2.IsKeyed) :
    overlay defaultSections file = sectionsUnder file := by
  have hcombine : overlay defaultSections file = combineAll overlaySection defaultSections file := rfl
  rw [hcombine, combineAll_eq isRecord_defaultSections.plain isRecord_defaultSections.apart hfile,
    sectionsUnder]
  congr 1
  · refine List.map_congr_left fun e he => ?_
    cases hgiven : file.get? e.1 with
    | none =>
        obtain ⟨entries, heq, -⟩ := exists_record he
        rw [heq]
        rfl
    | some given =>
        obtain ⟨e', he', rfl⟩ := exists_mem_of_get? hgiven
        rw [← overlaySection_eq he (hvalues e' he')]
        rfl
  · exact List.map_id _

/-! ## Files -/

/-- The values that count as absent, although they are neither null nor a map. -/
inductive CountsAsEmpty : Value → Prop where
  | no : CountsAsEmpty (.bool false)
  | zero : CountsAsEmpty (.int 0)
  | zeroFloat {x : Number.Binary64} (h : x.equalsInt 0 = true) : CountsAsEmpty (.float x)
  | text : CountsAsEmpty (.text "")
  | bytes : CountsAsEmpty (.bytes [])
  | list : CountsAsEmpty (.list [])
  | tuple : CountsAsEmpty (.tuple [])
  | set : CountsAsEmpty (.set [])

theorem CountsAsEmpty.ne (h : CountsAsEmpty v) : v ≠ .null ∧ ∀ file, v ≠ .map file := by
  cases h <;> exact ⟨nofun, nofun⟩

/-- The values that count as false, apart from null and maps, are the empty ones. -/
theorem isFalsy_eq_true_iff (hnull : v ≠ .null) (hmap : ∀ file, v ≠ .map file) :
    v.isFalsy = true ↔ CountsAsEmpty v := by
  constructor
  · intro h
    cases v with
    | null => exact absurd rfl hnull
    | map file => exact absurd rfl (hmap file)
    | bool b =>
        cases b with
        | false => exact .no
        | true => cases h
    | int i => exact of_decide_eq_true h ▸ .zero
    | float x => exact .zeroFloat h
    | text s => exact String.isEmpty_iff.1 h ▸ .text
    | bytes bs => exact List.isEmpty_iff.1 h ▸ .bytes
    | list vs => exact List.isEmpty_iff.1 h ▸ .list
    | tuple vs => exact List.isEmpty_iff.1 h ▸ .tuple
    | set vs => exact List.isEmpty_iff.1 h ▸ .set
    | date | moment => cases h
  · intro h
    cases h with
    | zeroFloat h => exact h
    | _ => rfl

/-- What becomes of a configuration file that is read as a value. -/
structure LoadsAs (p : Path) (v : Value)
    (loaded : Except ConfigFileError (OrderedMap Value Value) × Log) : Prop where
  /-- Nothing is reported. -/
  silent : loaded.2 = []
  /-- A file without content leaves the defaults. -/
  null : v = .null → loaded.1 = .ok defaultSections
  /-- The sections of a map are laid over the default ones. -/
  map : ∀ file, v = .map file → loaded.1 = .ok (sectionsUnder file)
  /-- What counts as absent is taken for a file without content. -/
  empty : CountsAsEmpty v → loaded.1 = .ok defaultSections
  /-- Every other value is refused. -/
  other : v ≠ .null → (∀ file, v ≠ .map file) → ¬ CountsAsEmpty v →
    loaded.1 = .error (.config (.fileNotMap p))

/-- A document that is no map counts as empty or is refused. -/
theorem ofFile_of_not_map (hmap : ∀ file, v ≠ .map file) :
    ofFile p v = if v.isFalsy then .ok defaultSections else .error (.fileNotMap p) := by
  unfold ofFile
  cases v with
  | map file => exact absurd rfl (hmap file)
  | _ => rfl

/-- **A configuration file lies over the defaults**, section by section and key by key. -/
theorem load_overlays (htext : t.readText p = .ok text) (hload : Yaml.load text = .ok v) :
    LoadsAs p v (load t p) := by
  rw [Command.load_of_text htext hload]
  exact {
    silent := rfl
    null := by
      rintro rfl
      rfl
    map := by
      rintro file rfl
      cases Yaml.isKeyed_of_load hload with
      | map hfile hvalues =>
          rw [Command.ofFile_map, overlay_eq_sectionsUnder hfile hvalues]
          rfl
      | other h => exact absurd rfl (h file)
    empty := fun h => by
      obtain ⟨hnull, hmap⟩ := h.ne
      rw [ofFile_of_not_map hmap, if_pos ((isFalsy_eq_true_iff hnull hmap).2 h)]
      rfl
    other := fun hnull hmap hother => by
      rw [ofFile_of_not_map hmap, if_neg fun h => hother ((isFalsy_eq_true_iff hnull hmap).1 h)]
      rfl }

/-- Whether a value has one section with one text. -/
def isTextUnder (title name value : String) : Value → Bool
  | .map [(.text title', .map [(.text name', .text value')])] =>
    title' = title && name' = name && value' = value
  | _ => false

/-- A document that has a text under a title and a name has nothing else. -/
theorem eq_of_isTextUnder {title name value : String} (h : isTextUnder title name value v = true) :
    v = .map [(.text title, .map [(.text name, .text value)])] := by
  unfold isTextUnder at h
  split at h
  · simp only [Bool.and_eq_true, decide_eq_true_eq] at h
    obtain ⟨⟨rfl, rfl⟩, rfl⟩ := h
    rfl
  · cases h

/-- A file that gives the logging level alone. -/
def levelFile : String := "logging:\n  level: DEBUG\n"

/-- What is read from it. -/
def levelSections : OrderedMap Value Value :=
  [(.text "logging", .map [(.text "level", .text "DEBUG")])]

theorem load_overlays_level :
    (Command.configured levelFile).readText (Path.ofString "config/config.yml") = .ok levelFile ∧
      Yaml.load levelFile = .ok (.map levelSections) ∧
      LoadsAs (Path.ofString "config/config.yml") (.map levelSections)
        (load (Command.configured levelFile) (Path.ofString "config/config.yml")) := by
  have htext : (Command.configured levelFile).readText (Path.ofString "config/config.yml") =
      .ok levelFile := by
    decide +kernel
  have hload : Yaml.load levelFile = .ok (.map levelSections) := by
    obtain ⟨v, hload, hv⟩ := exists_ok_of_toOption_map (x := Yaml.load levelFile)
      (f := isTextUnder "logging" "level" "DEBUG") (b := true) (by decide +kernel)
    rw [hload, eq_of_isTextUnder hv, levelSections]
  exact ⟨htext, hload, load_overlays htext hload⟩

/-- Whether a value is a list without items. -/
def isEmptyList : Value → Bool
  | .list [] => true
  | _ => false

theorem eq_of_isEmptyList (h : isEmptyList v = true) : v = .list [] := by
  unfold isEmptyList at h
  split at h
  · rfl
  · cases h

/-- An empty list is taken for a file without content. -/
theorem not_refused_empty_list :
    (Command.configured "[]\n").readText (Path.ofString "config/config.yml") = .ok "[]\n" ∧
      Yaml.load "[]\n" = .ok (.list []) ∧
      load (Command.configured "[]\n") (Path.ofString "config/config.yml") =
        (.ok defaultSections, []) := by
  have htext : (Command.configured "[]\n").readText (Path.ofString "config/config.yml") =
      .ok "[]\n" := by
    decide +kernel
  have hload : Yaml.load "[]\n" = .ok (.list []) := by
    obtain ⟨v, hload, hv⟩ := exists_ok_of_toOption_map (x := Yaml.load "[]\n") (f := isEmptyList)
      (b := true) (by decide +kernel)
    rw [hload, eq_of_isEmptyList hv]
  refine ⟨htext, hload, ?_⟩
  rw [Command.load_of_text htext hload]
  rfl

end Settings

end StringCatalog
