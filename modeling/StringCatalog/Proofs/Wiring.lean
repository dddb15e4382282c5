import Mathlib.Data.List.Nodup
import StringCatalog.Package.Loaded
import StringCatalog.Proofs.Compiled
import StringCatalog.Proofs.PackageNames
import StringCatalog.Proofs.TableModules
import StringCatalog.Proofs.WiringModules

/-!
# StringCatalog.Proofs.Wiring

In a compiled package every member of the registry reads the texts of its own
locale.  Four files must agree on it, under names that are made in three ways.

* `artifacts_eq` — no two files of a well-named model share a name;
* `Loaded.ofSources?_artifacts` — the package is read back from its files;
* `tableOf_ofModel` — a look-up by member reaches the tables of its locale;
* `WellWired` and `compile_wellWired` — all of it, for every compilation.
-/

namespace StringCatalog

open Text Package Lookup

variable {m : Model}

theorem Model.map_locales (m : Model) (f : Locale → β) :
    m.locales.map f = m.catalogs.map fun e => f e.1 := by
  rw [Model.locales, OrderedMap.keys, List.map_map]
  rfl

theorem Model.mem_locales {l : Locale} {c : Catalog} (hmem : (l, c) ∈ m.catalogs) :
    l ∈ m.locales :=
  List.mem_map.2 ⟨(l, c), hmem, rfl⟩

/-! ## Files -/

namespace Package

/-- Different modules have different files. -/
theorem fileName_inj {a b : String} (h : fileName a = fileName b) : a = b := by
  have hlist := congrArg String.toList h
  rw [fileName, fileName, String.toList_append, String.toList_append] at hlist
  exact String.toList_injective (List.append_cancel_right hlist)

/-- The files that every package has, besides those of its locales. -/
def fixedFiles : List String := [formattedStringFile, registryFile, accessorFile, faceFile]

/-- No file of a locale goes by the name of a fixed one. -/
theorem tablesFile_not_mem_fixedFiles (l : Locale) : tablesFile l ∉ fixedFiles := by
  have hfixed : ∀ f ∈ fixedFiles, ¬ "strings_".toList <+: f.toList := by decide
  intro h
  apply hfixed _ h
  rw [tablesFile, fileName, Locale.moduleName, String.toList_append, String.toList_append,
    List.append_assoc]
  exact List.prefix_append _ _

end Package

/-- No two locales share a file. -/
theorem Model.WellNamed.nodup_tablesFiles (h : m.WellNamed) :
    (m.locales.map tablesFile).Nodup := by
  obtain ⟨others, hlocales, h⟩ := h
  rw [hlocales]
  exact h.nodup_map fun _ _ _ _ heq => WellNamed.lower_eq_of_moduleName_eq (fileName_inj heq)

/-- **Files have names of their own**: the artifacts are all files, in the order of writing. -/
theorem artifacts_eq (h : m.WellNamed) :
    artifacts m =
      (formattedStringFile, formattedStringSource) ::
        m.catalogs.map (fun e => (tablesFile e.1, (Tables.ofCatalog e.1 e.2).source)) ++
        [(registryFile, RegistryModule.source m.locales),
          (accessorFile, AccessorModule.source m.locales m.default),
          (faceFile, faceSource)] := by
  refine OrderedMap.ofList_eq_self (OrderedMap.keysApart_iff_nodup.2 ?_)
  have hkeys : ∀ entries : List (Locale × Catalog),
      (entries.map fun e => (tablesFile e.1, (Tables.ofCatalog e.1 e.2).source)).map (·.1) =
        (entries.map (·.1)).map tablesFile := by
    intro entries
    rw [List.map_map, List.map_map]
    rfl
  have htables := h.nodup_tablesFiles
  have hfixed : ∀ f ∈ fixedFiles, f ∉ m.locales.map tablesFile := by
    intro f hf hmem
    obtain ⟨l, -, rfl⟩ := List.mem_map.1 hmem
    exact tablesFile_not_mem_fixedFiles l hf
  rw [OrderedMap.keys, List.cons_append, List.map_cons, List.map_append, hkeys]
  change (formattedStringFile ::
    (m.locales.map tablesFile ++ [registryFile, accessorFile, faceFile])).Nodup
  rw [List.nodup_cons, List.nodup_append, List.mem_append]
  refine ⟨?_, htables, by decide, fun f hf f' hf' => ?_⟩
  · rintro (hmem | hmem)
    · exact hfixed _ List.mem_cons_self hmem
    · revert hmem
      decide
  · rintro rfl
    exact hfixed _ (List.mem_cons_of_mem _ hf') hf

theorem nodup_artifacts (m : Model) : (artifacts m).keys.Nodup := OrderedMap.nodup_keys_ofList _

/-- An artifact is found under its name. -/
theorem get?_artifacts {name source : String}
    (hmem : (name, source) ∈ artifacts m) : (artifacts m).get? name = some source :=
  OrderedMap.get?_of_mem (OrderedMap.keysApart_iff_nodup.2 (nodup_artifacts m)) hmem
    (beq_self_eq_true name)

/-! ## The registry -/

namespace Lookup.Registry

/-- Members that differ in what they stand for are all members proper. -/
theorem membersOf_eq_self {seen : List MemberValue} {names : List (String × MemberValue)}
    (hseen : ∀ e ∈ names, e.2 ∉ seen) (hnodup : (names.map (·.2)).Nodup) :
    membersOf seen names = names := by
  induction names generalizing seen with
  | nil => rfl
  | cons e names ih =>
      rw [List.map_cons, List.nodup_cons] at hnodup
      have hnew : seen.contains e.2 = false := by
        simpa using hseen e List.mem_cons_self
      have hrest : ∀ e' ∈ names, e'.2 ∉ e.2 :: seen := by
        intro e' he' hmem
        rcases List.mem_cons.1 hmem with heq | hmem
        · exact hnodup.1 (heq ▸ List.mem_map_of_mem he')
        · exact hseen e' (List.mem_cons_of_mem _ he') hmem
      rw [membersOf, hnew, if_neg (by simp), ih hrest hnodup.2]

end Lookup.Registry

namespace WellNamed

variable {default : Locale} {others : List Locale} (h : WellNamed default others)
include h

/-- The registry of well-named locales is read back from its module. -/
theorem read?_registry :
    RegistryModule.read? (RegistryModule.source (default :: others)).toList =
      some ((default :: others).map RegistryModule.memberOf) := by
  rw [RegistryModule.source, String.toList_ofList]
  refine RegistryModule.read?_chars _ fun e he hspace => ?_
  obtain ⟨l, hl, rfl⟩ := List.mem_map.1 he
  exact absurd ((h.safeName_memberName hl).nameChars _ hspace) (by decide)

/-- What members stand for differs, as it holds the name of a module. -/
theorem nodup_memberValues :
    ((default :: others).map fun l => (RegistryModule.memberOf l).2).Nodup := by
  refine List.pairwise_map.2 (List.Pairwise.imp ?_ (List.pairwise_map.1 h.nodup_moduleNames))
  intro l l' hne heq
  exact hne (congrArg MemberValue.token heq)

/-- No member is another name of an earlier one. -/
theorem members_registry :
    Registry.members ⟨(default :: others).map RegistryModule.memberOf⟩ =
      (default :: others).map RegistryModule.memberOf := by
  refine Registry.membersOf_eq_self (fun _ _ => List.not_mem_nil) ?_
  rw [List.map_map]
  exact h.nodup_memberValues

end WellNamed

/-! ## The package read back -/

namespace Package

/-- The package of a model as it is read back from its files. -/
def Loaded.ofModel (m : Model) : Loaded :=
  ⟨⟨m.locales.map RegistryModule.memberOf⟩, Wiring.ofLocales m.locales m.default,
    m.catalogs.map fun e => (e.1.moduleName, Tables.ofCatalog e.1 e.2)⟩

theorem mapM_eq_some_map {f : β → Option γ} {g : α → β} {k : α → γ} {xs : List α}
    (h : ∀ x ∈ xs, f (g x) = some (k x)) : (xs.map g).mapM f = some (xs.map k) := by
  induction xs with
  | nil => rfl
  | cons x xs ih =>
      rw [List.map_cons, List.mapM_cons, h x List.mem_cons_self,
        ih fun y hy => h y (List.mem_cons_of_mem x hy)]
      rfl

/-- A module whose source reads back is loaded. -/
theorem loadModule?_eq_some {read : List Char → Option α} {source : String → Option String}
    {module text : String} {a : α} (hsource : source (fileName module) = some text)
    (hread : read text.toList = some a) : loadModule? read source module = some a := by
  rw [loadModule?, hsource]
  exact hread

variable (h : m.WellNamed)
include h

theorem safeName_memberName {l : Locale} (hl : l ∈ m.locales) : SafeName l.memberName := by
  obtain ⟨others, hlocales, hnamed⟩ := h
  exact hnamed.safeName_memberName (hlocales ▸ hl)

theorem isUnmarked_memberName {l : Locale} (hl : l ∈ m.locales) :
    AccessorModule.IsUnmarked l.memberName :=
  AccessorModule.isUnmarked_of_nameChars (safeName_memberName h hl).toList_ne_nil
    (safeName_memberName h hl).nameChars

theorem nameChars_moduleName {l : Locale} (hl : l ∈ m.locales) :
    ∀ c ∈ l.moduleName.toList, IsNameChar c := by
  obtain ⟨others, hlocales, hnamed⟩ := h
  exact hnamed.nameChars_moduleName (hlocales ▸ hl)

theorem isUnmarked_moduleName {l : Locale} (hl : l ∈ m.locales) :
    AccessorModule.IsUnmarked l.moduleName := by
  refine AccessorModule.isUnmarked_of_nameChars ?_ (nameChars_moduleName h hl)
  rw [Locale.moduleName, String.toList_append]
  exact List.append_ne_nil_of_left_ne_nil (by decide) _

theorem read?_registry :
    RegistryModule.read? (RegistryModule.source m.locales).toList =
      some (m.locales.map RegistryModule.memberOf) := by
  obtain ⟨others, hlocales, hnamed⟩ := h
  rw [hlocales]
  exact hnamed.read?_registry

theorem default_mem_locales : m.default ∈ m.locales := by
  obtain ⟨others, hlocales, -⟩ := h
  exact hlocales ▸ List.mem_cons_self

theorem memberName_default : m.default.memberName = "DEFAULT" := by
  obtain ⟨others, -, hnamed⟩ := h
  exact Locale.memberName_of_isDefault hnamed.default_isDefault

/-- The accessors read back with the module and the member of each locale. -/
theorem read?_accessor :
    AccessorModule.read? (AccessorModule.source m.locales m.default).toList =
      some (Wiring.ofLocales m.locales m.default) := by
  rw [AccessorModule.source, String.toList_ofList]
  refine AccessorModule.read?_chars _ ⟨?_, ?_, ?_, ?_⟩
  · intro hnil
    exact List.ne_nil_of_mem (default_mem_locales h) (List.map_eq_nil_iff.1 hnil)
  · intro name hname
    obtain ⟨l, hl, rfl⟩ := List.mem_map.1 hname
    exact isUnmarked_moduleName h hl
  · intro e he
    obtain ⟨l, hl, rfl⟩ := List.mem_map.1 he
    exact ⟨isUnmarked_memberName h hl, isUnmarked_moduleName h hl⟩
  · exact isUnmarked_memberName h (default_mem_locales h)

theorem get?_registryFile :
    (artifacts m).get? registryFile = some (RegistryModule.source m.locales) :=
  get?_artifacts (by rw [artifacts_eq h]; simp)

theorem get?_accessorFile :
    (artifacts m).get? accessorFile = some (AccessorModule.source m.locales m.default) :=
  get?_artifacts (by rw [artifacts_eq h]; simp)

/-- The tables of a locale are in its file. -/
theorem get?_tablesFile {l : Locale} {c : Catalog} (hmem : (l, c) ∈ m.catalogs) :
    (artifacts m).get? (tablesFile l) = some (Tables.ofCatalog l c).source := by
  refine get?_artifacts ?_
  rw [artifacts_eq h]
  refine List.mem_append_left _ (List.mem_cons_of_mem _ ?_)
  exact List.mem_map.2 ⟨(l, c), hmem, rfl⟩

/-- No two locales share a member. -/
theorem nodup_memberNames : (m.locales.map Locale.memberName).Nodup := by
  obtain ⟨others, hlocales, hnamed⟩ := h
  rw [hlocales]
  exact hnamed.nodup_memberNames

/-- No two locales share a module. -/
theorem nodup_moduleNames : (m.locales.map Locale.moduleName).Nodup := by
  obtain ⟨others, hlocales, hnamed⟩ := h
  rw [hlocales]
  exact hnamed.nodup_moduleNames

theorem nodup_memberValues : (m.locales.map fun l => (RegistryModule.memberOf l).2).Nodup := by
  obtain ⟨others, hlocales, hnamed⟩ := h
  rw [hlocales]
  exact hnamed.nodup_memberValues

theorem keysApart_tables : OrderedMap.KeysApart (Loaded.ofModel m).tables := by
  have hmodules := nodup_moduleNames h
  rw [m.map_locales] at hmodules
  exact List.pairwise_map.2 (List.Pairwise.imp (fun hne => beq_eq_false_iff_ne.2 hne)
    (List.pairwise_map.1 hmodules))

/-- **A package is read back from its files.** -/
theorem Loaded.ofSources?_artifacts :
    Loaded.ofSources? (artifacts m).get? = some (Loaded.ofModel m) := by
  have hregistry : loadModule? RegistryModule.read? (artifacts m).get? "app_locale" =
      some (m.locales.map RegistryModule.memberOf) :=
    loadModule?_eq_some (get?_registryFile h) (read?_registry h)
  have haccessor : loadModule? AccessorModule.read? (artifacts m).get? "localized_strings" =
      some (Wiring.ofLocales m.locales m.default) :=
    loadModule?_eq_some (get?_accessorFile h) (read?_accessor h)
  have htables : ∀ e ∈ m.catalogs,
      (do return (e.1.moduleName,
        ← loadModule? Tables.read? (artifacts m).get? e.1.moduleName)) =
        some (e.1.moduleName, Tables.ofCatalog e.1 e.2) := by
    intro e he
    rw [loadModule?_eq_some (get?_tablesFile h he) (read?_ofCatalog e.1 e.2)]
    rfl
  have himported : (Wiring.ofLocales m.locales m.default).imported =
      m.catalogs.map fun e => e.1.moduleName := m.map_locales Locale.moduleName
  rw [Loaded.ofSources?, hregistry, haccessor, Option.bind_eq_bind, Option.bind_some,
    Option.bind_eq_bind, Option.bind_some, himported, mapM_eq_some_map htables,
    Option.bind_eq_bind, Option.bind_some]
  exact congrArg (fun tables => some (Loaded.mk _ _ tables))
    (OrderedMap.ofList_eq_self (keysApart_tables h))

end Package

/-! ## Look-ups -/

namespace Package

section Lookups

variable (h : m.WellNamed)
include h

/-- The registry that is loaded has a member for each locale. -/
theorem members_ofModel :
    (Loaded.ofModel m).registry.members = m.locales.map RegistryModule.memberOf := by
  obtain ⟨others, hlocales, hnamed⟩ := h
  rw [Loaded.ofModel, hlocales]
  exact hnamed.members_registry

/-- The name of a locale's member stands for that member. -/
theorem keyOf_ofModel {l : Locale} (hl : l ∈ m.locales) :
    (Loaded.ofModel m).keyOf l.memberName = .member l.memberName := by
  have hmem : RegistryModule.memberOf l ∈ m.locales.map RegistryModule.memberOf :=
    List.mem_map_of_mem hl
  have hnames : (Loaded.ofModel m).registry.names.get? l.memberName =
      some (RegistryModule.memberOf l).2 := by
    refine OrderedMap.get?_of_mem (OrderedMap.keysApart_iff_nodup.2 ?_) hmem (beq_self_eq_true _)
    have hkeys : (Loaded.ofModel m).registry.names.keys = m.locales.map Locale.memberName := by
      rw [Loaded.ofModel, OrderedMap.keys, List.map_map]
      rfl
    rw [hkeys]
    exact nodup_memberNames h
  -- the member is found again by what it stands for, which no other member does
  have hfind : (m.locales.map RegistryModule.memberOf).find?
      (fun e => decide (e.2 = (RegistryModule.memberOf l).2)) =
      some (RegistryModule.memberOf l) := by
    have hvalues := nodup_memberValues h
    obtain ⟨e, he⟩ := Option.isSome_iff_exists.1
      (List.find?_isSome (p := fun e => decide (e.2 = (RegistryModule.memberOf l).2)) |>.2
        ⟨_, hmem, by simp⟩)
    have hvalue : e.2 = (RegistryModule.memberOf l).2 := by simpa using List.find?_some he
    obtain ⟨l', hl', rfl⟩ := List.mem_map.1 (List.mem_of_find?_eq_some he)
    rw [he, List.inj_on_of_nodup_map hvalues hl' hl hvalue]
  rw [Loaded.keyOf, Registry.memberNamed?, hnames, Option.bind_some, members_ofModel h, hfind]
  rfl

theorem keysApart_members : OrderedMap.KeysApart (m.catalogs.map fun e =>
    (LocaleKey.member e.1.memberName, some (Tables.ofCatalog e.1 e.2).lookupTable)) := by
  have hmembers := nodup_memberNames h
  rw [m.map_locales] at hmembers
  exact List.pairwise_map.2 (List.Pairwise.imp (fun hne => decide_eq_false hne)
    (List.pairwise_map.1 hmembers))

/-- The tables by member: each locale's own. -/
theorem strings_tables_ofModel :
    (Loaded.ofModel m).strings.tables = m.catalogs.map fun e =>
      (LocaleKey.member e.1.memberName, some (Tables.ofCatalog e.1 e.2).lookupTable) := by
  have htables : ∀ e ∈ m.catalogs, (Loaded.ofModel m).tables.get? e.1.moduleName =
      some (Tables.ofCatalog e.1 e.2) := fun e he =>
    OrderedMap.get?_of_mem (keysApart_tables h) (List.mem_map_of_mem he) (beq_self_eq_true _)
  have hwiring : (Loaded.ofModel m).wiring.tables =
      m.catalogs.map fun e => (e.1.memberName, e.1.moduleName) :=
    m.map_locales fun l => (l.memberName, l.moduleName)
  have hentries : (Loaded.ofModel m).wiring.tables.map (fun e =>
      ((Loaded.ofModel m).keyOf e.1,
        ((Loaded.ofModel m).tables.get? e.2).map Tables.lookupTable)) =
      m.catalogs.map fun e =>
        (LocaleKey.member e.1.memberName, some (Tables.ofCatalog e.1 e.2).lookupTable) := by
    rw [hwiring, List.map_map]
    refine List.map_congr_left fun e he => ?_
    dsimp only [Function.comp_apply]
    rw [keyOf_ofModel h (m.mem_locales he), htables e he]
    rfl
  rw [Loaded.strings, hentries, OrderedMap.ofList_eq_self (keysApart_members h)]
  rfl

/-- **A look-up by member reaches the tables of its own locale.** -/
theorem tableOf_ofModel {l : Locale} {c : Catalog} (hmem : (l, c) ∈ m.catalogs) :
    (Loaded.ofModel m).strings.tableOf (.member l.memberName) =
      some (Tables.ofCatalog l c).lookupTable := by
  have hkey : (LocaleKey.member l.memberName == LocaleKey.member l.memberName) = true :=
    decide_eq_true rfl
  have hfound := OrderedMap.get?_of_mem (keysApart_members h)
    (List.mem_map.2 ⟨(l, c), hmem, rfl⟩) hkey
  have hcan : (LocaleKey.member l.memberName).canHaveTable = true := rfl
  rw [Strings.tableOf, if_pos hcan, strings_tables_ofModel h, hfound]
  rfl

end Lookups

end Package

/-! ## Every compilation -/

/-- A package whose files agree on its locales: each has a file, a member and a place in the
accessor, under names of its own, and what is looked up by its member comes from its catalog. -/
structure WellWired (m : Model) : Prop where
  /-- There is one file for every locale, and four more. -/
  files_length : (artifacts m).length = m.locales.length + 4
  files_nodup : (artifacts m).keys.Nodup
  tables_file : ∀ l c, (l, c) ∈ m.catalogs →
    (artifacts m).get? (fileName l.moduleName) = some (Tables.ofCatalog l c).source
  /-- The registry has one member for every locale, in order. -/
  registry : ∃ source, (artifacts m).get? registryFile = some source ∧
    RegistryModule.read? source.toList = some (m.locales.map RegistryModule.memberOf)
  member_names : ∀ l ∈ m.locales, IsMemberName l.memberName
  member_names_nodup : (m.locales.map Locale.memberName).Nodup
  member_values_nodup : (m.locales.map fun l => (RegistryModule.memberOf l).2).Nodup
  default_first : m.locales.head? = some m.default
  default_member : ∀ l ∈ m.locales, l.memberName = "DEFAULT" ↔ l = m.default
  /-- The accessor imports the modules of the locales and wires every member to its own. -/
  accessor : ∃ source, (artifacts m).get? accessorFile = some source ∧
    AccessorModule.read? source.toList =
      some ⟨m.locales.map Locale.moduleName, m.locales.map fun l => (l.memberName, l.moduleName),
        "DEFAULT"⟩
  /-- In the package as it is read back no member is an alias, and every one has the tables of its
  own locale. -/
  lookups : ∃ p, Loaded.ofSources? (artifacts m).get? = some p ∧
    p.registry.members = p.registry.names ∧ p.strings.default = .member "DEFAULT" ∧
    ∀ l c, (l, c) ∈ m.catalogs →
      p.strings.tableOf (p.keyOf l.memberName) = some (Tables.ofCatalog l c).lookupTable

/-- Locales of names apart make a package without cross-wiring. -/
theorem Model.WellNamed.wellWired (h : m.WellNamed) : WellWired m where
  files_length := by
    rw [artifacts_eq h, Model.locales, OrderedMap.keys]
    simp
  files_nodup := nodup_artifacts m
  tables_file _ _ := get?_tablesFile h
  registry := ⟨_, get?_registryFile h, read?_registry h⟩
  member_names l hl := by
    obtain ⟨others, hlocales, hnamed⟩ := h
    exact hnamed.isMemberName (hlocales ▸ hl)
  member_names_nodup := nodup_memberNames h
  member_values_nodup := nodup_memberValues h
  default_first := by
    obtain ⟨others, hlocales, -⟩ := h
    rw [hlocales, List.head?_cons]
  default_member l hl := by
    obtain ⟨others, hlocales, hnamed⟩ := h
    exact hnamed.memberName_eq_default_iff (hlocales ▸ hl)
  accessor := by
    refine ⟨_, get?_accessorFile h, ?_⟩
    rw [read?_accessor h, Wiring.ofLocales, memberName_default h]
  lookups := by
    refine ⟨_, Loaded.ofSources?_artifacts h, members_ofModel h, ?_, fun l c hmem => ?_⟩
    · rw [← memberName_default h]
      exact keyOf_ofModel h (default_mem_locales h)
    · rw [keyOf_ofModel h (m.mem_locales hmem)]
      exact tableOf_ofModel h hmem

/-- **No compilation cross-wires a package.**  The files of a compiled model agree on its locales,
and the catalog of each locale is the one that was read from the locale's own directory. -/
theorem compile_wellWired {t : FileTree} {s : Settings} {c : Compiled}
    (h : (Compilation.compile t s).1 = .ok c) :
    WellWired c.model ∧
      ∀ l catalog, (l, catalog) ∈ c.model.catalogs →
        ∃ p, Discovery.HasOwnPath s.resourcesDir s.catalogFile l p ∧
          (Catalog.load t p).1 = .ok catalog := by
  have hread := Compilation.compile_spec h
  refine ⟨hread.wellNamed.wellWired, fun l catalog hmem => ?_⟩
  rw [hread.catalogs] at hmem
  obtain ⟨e, he, heq⟩ := List.mem_map.1 hmem
  cases heq
  exact ⟨e.2.1, hread.own_path e he, hread.loaded e he⟩

/-- A tree with texts in the default locale and in German. -/
def twoLocales : FileTree where
  workingDir := []
  entries := [
    (["res"], .directory),
    (["res", "values"], .directory),
    (["res", "values", "strings.xml"],
      .file "<resources><string name=\"a\">b</string></resources>".toUTF8),
    (["res", "values-de"], .directory),
    (["res", "values-de", "strings.xml"], .file "<resources/>".toUTF8)]

/-- Settings by which the resources of a tree are in `res`. -/
def resSettings : Settings where
  outputPackage := "out"
  resourcesDir := ⟨.relative, ["res"]⟩
  defaultLocaleName := "Default"
  outputDir := ⟨.relative, ["gen"]⟩
  catalogFile := "strings.xml"
  maxWorkers := none

/-- One directory stands for a locale. -/
theorem candidates_twoLocales :
    Discovery.candidates twoLocales resSettings.resourcesDir = (["values-de"], .ok ()) := by
  have hsorted : FileTree.sortNames ["values", "values-de"] = ["values", "values-de"] :=
    List.mergeSort_of_pairwise (by decide)
  have hnames : twoLocales.names resSettings.resourcesDir =
      .ok (FileTree.sortNames ["values", "values-de"]) := rfl
  have hdir : twoLocales.isDirectory? resSettings.resourcesDir = .ok true := rfl
  rw [Discovery.candidates, hdir, hnames, hsorted]
  rfl

/-- It is compiled beside the default locale. -/
theorem compile_twoLocales :
    ∃ c, (Compilation.compile twoLocales resSettings).1 = .ok c ∧
      c.model.locales.map Locale.memberName = ["DEFAULT", "DE"] := by
  apply exists_ok_of_toOption_map
  rw [Compilation.compile, Discovery.discover, candidates_twoLocales]
  decide +kernel

theorem compile_wellWired_twoLocales :
    ∃ c, (Compilation.compile twoLocales resSettings).1 = .ok c ∧
      c.model.locales.map Locale.memberName = ["DEFAULT", "DE"] ∧ WellWired c.model ∧
      ∀ l catalog, (l, catalog) ∈ c.model.catalogs →
        ∃ p, Discovery.HasOwnPath resSettings.resourcesDir resSettings.catalogFile l p ∧
          (Catalog.load twoLocales p).1 = .ok catalog := by
  obtain ⟨c, hc, hmembers⟩ := compile_twoLocales
  obtain ⟨hwired, hown⟩ := compile_wellWired hc
  exact ⟨c, hc, hmembers, hwired, hown⟩

end StringCatalog
