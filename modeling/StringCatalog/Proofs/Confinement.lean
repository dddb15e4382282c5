import StringCatalog.Proofs.Effects
import StringCatalog.Proofs.Refusals

/-!
# StringCatalog.Proofs.Confinement

Where a run can write.  Names that reach a path are single ones: those of the
package are identifiers, and those of its files are made of name characters.  So
none of them starts a path anew, leads back, or leads further down.

* `Path.foldl_child` — single names extend a path as they are;
* `isSingleName_of_isModuleName`, `isSingleName_of_mem_artifacts` — where they
  come from;
* `run_confined` — a run changes nothing but files directly in the directory of
  the package, which it makes if it is missing.
-/

namespace StringCatalog

open Text

/-! ## Single names -/

namespace Text

/-- A text without the separator is one part. -/
theorem splitChars_of_not_mem {sep : Char} {cs : List Char} (h : sep ∉ cs) :
    splitChars sep cs = [cs] := by
  induction cs with
  | nil => rfl
  | cons c cs ih =>
      rw [List.mem_cons, not_or] at h
      rw [splitChars, if_neg (Ne.symm h.1), ih h.2]

end Text

/-- A text that is one name of a path and leads one step down. -/
structure IsSingleName (s : String) : Prop where
  no_slash : '/' ∉ s.toList
  ne_empty : s ≠ ""
  ne_dot : s ≠ "."
  ne_dots : s ≠ ".."

/-- A single name is a relative path of one part. -/
theorem Path.ofString_of_isSingleName {s : String} (h : IsSingleName s) : Path.ofString s = ⟨.relative, [s]⟩ := by
  have hanchor : Path.anchorOf s.toList = .relative := by
    unfold Path.anchorOf
    have hslash := h.no_slash
    split <;> simp_all
  have hsplit : splitText '/' s = [s] := by
    rw [splitText, splitChars_of_not_mem h.no_slash, List.map_singleton, String.ofList_toList]
  rw [Path.ofString, hanchor, hsplit]
  simp [h.ne_empty, h.ne_dot]

/-- A single name goes one step down, whatever the path. -/
theorem Path.child_of_isSingleName {s : String} (p : Path) (h : IsSingleName s) : p.child s = p.entry s := by
  rw [Path.child, Path.ofString_of_isSingleName h, Path.join_of_relative p rfl, Path.entry]

/-- Single names extend a path as they are. -/
theorem Path.foldl_child {names : List String} (h : ∀ n ∈ names, IsSingleName n) (p : Path) :
    names.foldl Path.child p = ⟨p.anchor, p.names ++ names⟩ := by
  induction names generalizing p with
  | nil => simp
  | cons n names ih =>
      rw [List.forall_mem_cons] at h
      rw [List.foldl_cons, Path.child_of_isSingleName p h.1, ih h.2, Path.entry]
      simp

/-! ### Names of modules -/

/-- A character that starts no identifier and goes on in none is in none. -/
theorem not_mem_of_isIdentifier {s : String} {d : Char} (hstart : isIdentifierStart d = false)
    (hrest : isIdentifierRest d = false) (h : isIdentifier s = true) : d ∉ s.toList := by
  unfold isIdentifier at h
  split at h
  · cases h
  · next c cs hcs =>
    rw [Bool.and_eq_true, List.all_eq_true] at h
    rw [hcs, List.mem_cons]
    rintro (rfl | hmem)
    · simp [hstart] at h
    · simp [h.2 d hmem] at hrest

/-- A name of a module is a single one. -/
theorem isSingleName_of_isModuleName {s : String} (h : isModuleName s = true) : IsSingleName s := by
  rw [isModuleName, Bool.and_eq_true] at h
  have hdot := not_mem_of_isIdentifier (d := '.') (by decide) (by decide) h.1
  refine ⟨not_mem_of_isIdentifier (by decide) (by decide) h.1, ?_, ?_, ?_⟩
  · rintro rfl
    exact absurd h.1 (by decide)
  · rintro rfl
    exact hdot (by decide)
  · rintro rfl
    exact hdot (by decide)

namespace Package

/-- The name of a module's file is a single one if it has no slash. -/
theorem isSingleName_of_isModuleFile {name : String} (h : isModuleFile name = true)
    (hslash : '/' ∉ name.toList) : IsSingleName name := by
  refine ⟨hslash, ?_, ?_, ne_dots_of_isModuleFile h⟩
  · rintro rfl
    exact absurd h (by decide)
  · rintro rfl
    exact absurd h (by decide)

/-- The file of a module has a single name. -/
theorem isSingleName_fileName {module : String} (h : ∀ c ∈ module.toList, IsNameChar c) :
    IsSingleName (fileName module) := by
  refine isSingleName_of_isModuleFile (isModuleFile_fileName module) ?_
  rw [fileName, String.toList_append, List.mem_append, not_or]
  exact ⟨fun hmem => absurd (h _ hmem) (by decide), by decide⟩

/-- The files of a package have single names. -/
theorem isSingleName_of_mem_artifacts {m : Model} {e : String × String} (h : m.WellNamed)
    (he : e ∈ artifacts m) : IsSingleName e.1 := by
  rw [artifacts_eq h, List.mem_append, List.mem_cons, List.mem_map] at he
  rcases he with (rfl | ⟨e, he, rfl⟩) | he
  · exact isSingleName_fileName (forall_mem_of_all (by decide))
  · exact isSingleName_fileName (nameChars_moduleName h (List.mem_map_of_mem he))
  · simp only [List.mem_cons, List.not_mem_nil, or_false] at he
    rcases he with rfl | rfl | rfl <;> exact isSingleName_fileName (forall_mem_of_all (by decide))

end Package

/-! ## Settings -/

namespace Settings

variable {s : Settings} {v : Value} {projectDir : Path} {overrides : OrderedMap String Value}

/-- Settings that were accepted have the directory and the package that count, and every name of the
package is that of a module. -/
structure Accepted (v : Value) (projectDir : Path) (overrides : OrderedMap String Value)
    (s : Settings) : Prop where
  outputPackage : ∃ given, v = .map given ∧
    effective given overrides "output_package" = .text s.outputPackage
  outputDir : ∃ given text, v = .map given ∧ effective given overrides "output_dir" = .text text ∧
    s.outputDir = projectDir.child text
  isModuleName : ∀ part ∈ packageNames s.outputPackage, isModuleName part = true

/-- Settings that were read meet what is said of accepted ones. -/
theorem accepted_of_ofValue (h : ofValue v projectDir overrides = .ok s) :
    Accepted v projectDir overrides s := by
  unfold ofValue at h
  split at h
  · next given =>
    obtain ⟨outputPackage, hpackage, h⟩ := bind_eq_ok h
    obtain ⟨resourcesDir, -, h⟩ := bind_eq_ok h
    obtain ⟨defaultLocaleName, -, h⟩ := bind_eq_ok h
    obtain ⟨outputDir, hdir, h⟩ := bind_eq_ok h
    obtain ⟨catalogFile, -, h⟩ := bind_eq_ok h
    obtain ⟨maxWorkers, -, h⟩ := bind_eq_ok h
    obtain ⟨rfl, ⟨hnames, -⟩, -⟩ := validate_eq_ok_iff.1 h
    exact ⟨⟨given, rfl, textSetting_eq_ok_iff.1 hpackage⟩,
      ⟨given, outputDir, rfl, textSetting_eq_ok_iff.1 hdir, rfl⟩, hnames⟩
  · exact absurd h (refuse_ne_ok _ _ _)

/-- **The directory of the package** is the output directory with the names of the package. -/
theorem packageDir_eq (h : ∀ part ∈ packageNames s.outputPackage, IsSingleName part) :
    s.packageDir = ⟨s.outputDir.anchor, s.outputDir.names ++ packageNames s.outputPackage⟩ :=
  Path.foldl_child h s.outputDir

end Settings

/-! ## Runs -/

namespace Compilation

open FileTree Package Settings

variable {t : FileTree} {s : Settings} {dir : Path} {x : Location}

/-- A change of a tree at a location that stays in a directory: a file directly in it is written or
removed, or the directory or one that its path leads through is made.  The name of a file that is
removed was found in the directory, so that only a slash could make it anything but single. -/
inductive StaysIn (t t' : FileTree) (dir : Path) (x : Location) : Prop where
  | written {name : String} (hname : IsSingleName name) (hx : x = t.target dir ++ [name])
      (hfile : ∃ content, t'.entryAt x = some (.file content))
      (hnot : t.entryAt x ≠ some .directory)
  | removed {name : String} (hname : '/' ∉ name.toList → IsSingleName name)
      (hx : x = t.target dir ++ [name]) (hfile : ∃ content, t.entryAt x = some (.file content))
      (hgone : t'.entryAt x = none)
  | made {names : List String} (hnames : names <+: dir.names) (hx : x = t.target ⟨dir.anchor, names⟩)
      (hnone : t.entryAt x = none) (hdir : t'.entryAt x = some .directory)

/-- Whatever a run touches lies in the package. -/
theorem staysIn_of_touches {t' : FileTree} {m : Model} (hm : m.WellNamed)
    (h : Touches t t' dir (artifacts m) x) : StaysIn t t' dir x := by
  cases h with
  | artifact he hx hfile hnot => exact .written (isSingleName_of_mem_artifacts hm he) hx hfile hnot
  | stale hstale hx hgone =>
      obtain ⟨content, hfile, -⟩ := hstale.compiled
      exact .removed (isSingleName_of_isModuleFile hstale.isModuleFile) hx
        ⟨content, hx ▸ hfile⟩ hgone
  | directory hnone hdir hway =>
      obtain ⟨names, hnames, hx⟩ := hway
      exact .made hnames hx hnone hdir

/-- A run leaves the tree as it is or writes a package into it. -/
theorem run_tree (t : FileTree) (s : Settings) :
    (run t s).tree = t ∨ ∃ c, (compile t s).1 = .ok c ∧
      (run t s).tree = (Package.write t s.packageDir (artifacts c.model)).tree := by
  unfold run
  split
  · exact .inl rfl
  · next c log hcompile =>
    refine .inr ⟨c, by rw [hcompile], ?_⟩
    dsimp only
    split <;> rfl

/-- To write a package leaves the working directory where it is. -/
theorem workingDir_write {artifacts : Artifacts} (hwf : t.WellFormed) (dir : Path)
    (hpackage : IsPackage artifacts) :
    (Package.write t dir artifacts).tree.workingDir = t.workingDir := by
  have hmade := (extends_made hwf dir).keeps.workingDir
  cases ends_write dir hwf hpackage with
  | refused _ _ hextends => exact hextends.keeps.workingDir
  | blocked _ _ htree => exact htree.keeps.workingDir
  | completed _ _ _ _ htree => exact htree.keeps.workingDir.trans hmade
  | stopped _ _ _ _ _ _ htree => exact htree.keeps.workingDir.trans hmade

/-- What a run leaves alone. -/
structure Confined (t : FileTree) (s : Settings) (r : Run) : Prop where
  /-- The names of the package are single ones. -/
  parts : ∀ part ∈ packageNames s.outputPackage, IsSingleName part
  /-- The directory of the package is the output directory with these names. -/
  packageDir : s.packageDir = ⟨s.outputDir.anchor, s.outputDir.names ++ packageNames s.outputPackage⟩
  /-- It lies below the output directory. -/
  below : t.target s.packageDir = t.target s.outputDir ++ packageNames s.outputPackage
  workingDir : r.tree.workingDir = t.workingDir
  /-- Whatever changes is there. -/
  changes : ∀ x, r.tree.entryAt x ≠ t.entryAt x → StaysIn t r.tree s.packageDir x

/-- **A run stays in the directory of its package**, whatever the settings, the names of the
directories and the texts in them are, and however it ends. -/
theorem run_confined (hwf : t.WellFormed) {v : Value} {projectDir : Path}
    {overrides : OrderedMap String Value} (h : Settings.ofValue v projectDir overrides = .ok s) :
    Accepted v projectDir overrides s ∧ Confined t s (run t s) := by
  have haccepted := accepted_of_ofValue h
  have hparts : ∀ part ∈ packageNames s.outputPackage, IsSingleName part :=
    fun part hpart => isSingleName_of_isModuleName (haccepted.isModuleName part hpart)
  have hdir := packageDir_eq hparts
  have hdots : ".." ∉ packageNames s.outputPackage := fun hmem => (hparts _ hmem).ne_dots rfl
  have hbelow : t.target s.packageDir = t.target s.outputDir ++ packageNames s.outputPackage := by
    rw [hdir, FileTree.target, List.foldl_append, foldl_follow hdots]
    rfl
  refine ⟨haccepted, hparts, hdir, hbelow, ?_, fun x hne => ?_⟩
  · rcases run_tree t s with hsame | ⟨c, hc, htree⟩
    · rw [hsame]
    · have hm : c.model.IsCompiled := ⟨t, s, c, hc, rfl⟩
      rw [htree, workingDir_write hwf _ (isPackage_artifacts hm.wellNamed)]
  · rcases run_tree t s with hsame | ⟨c, hc, htree⟩
    · exact absurd (by rw [hsame]) hne
    · have hm : c.model.IsCompiled := ⟨t, s, c, hc, rfl⟩
      rw [htree] at hne ⊢
      exact staysIn_of_touches hm.wellNamed
        (touches_of_ne hwf (isPackage_artifacts hm.wellNamed) hne)

theorem run_confined_twoLocales :
    ∃ v, Settings.ofValue v ⟨.relative, []⟩ [] = .ok resSettings ∧ twoLocales.WellFormed ∧
      (∃ c, (compile twoLocales resSettings).1 = .ok c) ∧
      Accepted v ⟨.relative, []⟩ [] resSettings ∧
      Confined twoLocales resSettings (run twoLocales resSettings) := by
  have haccepted : Settings.ofValue (.map [(.text "resources_dir", .text "res"),
      (.text "output_dir", .text "gen"), (.text "output_package", .text "out")])
      ⟨.relative, []⟩ [] = .ok resSettings := by
    decide
  obtain ⟨c, hc, -⟩ := compile_twoLocales
  exact ⟨_, haccepted, wellFormed_twoLocales, ⟨c, hc⟩, run_confined wellFormed_twoLocales haccepted⟩

end Compilation

end StringCatalog
