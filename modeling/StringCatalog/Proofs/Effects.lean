import Mathlib.Data.List.Infix
import StringCatalog.Proofs.EarlierFiles
import StringCatalog.Proofs.Listings

/-!
# StringCatalog.Proofs.Effects

What a write changes, and what it says of it.  Earlier modules are known by their
first line and new ones by their names, so that there are two ways for a file to
be touched.

* `touches_of_ne` — where a write can change a tree, however it ends;
* `effects_of_write` — the modules that are there after a write that succeeds,
  and a log that tells what became of every file;
* `spares_write` — files of other origin are kept, but for those under the name
  of a module.
-/

namespace StringCatalog.Package

open FileTree Text

variable {t t' : FileTree} {dir : Path} {artifacts done : Artifacts} {name : String} {x : Location}

/-! ## Modules by their first line -/

/-- A text that was decoded has the bytes that it was decoded from. -/
theorem toUTF8_eq_of_fromUTF8? {content : ByteArray} {s : String}
    (h : String.fromUTF8? content = some s) : s.toUTF8 = content := by
  unfold String.fromUTF8? at h
  split at h
  · rw [← Option.some.inj h]
    rfl
  · cases h

/-- A line that is read ends with a line feed or a carriage return in its file. -/
theorem exists_of_unifyLineEnds {cs line rest : List Char} (hline : '\n' ∉ line)
    (h : unifyLineEnds cs = line ++ '\n' :: rest) :
    ∃ c rest', (c = '\n' ∨ c = '\r') ∧ cs = line ++ c :: rest' := by
  induction line generalizing cs with
  | nil =>
      fun_cases unifyLineEnds cs with
      | case1 => simp [unifyLineEnds] at h
      | case2 rest' => exact ⟨'\r', '\n' :: rest', .inr rfl, rfl⟩
      | case3 c rest' hnot =>
        refine ⟨c, rest', ?_, rfl⟩
        by_cases hc : c = '\r'
        · exact .inr hc
        · rw [unifyLineEnds.eq_3 _ _ hnot, if_neg hc] at h
          exact .inl (List.cons.inj h).1
  | cons x line ih =>
      rw [List.mem_cons, not_or] at hline
      fun_cases unifyLineEnds cs with
      | case1 => simp [unifyLineEnds] at h
      | case2 rest' =>
        rw [unifyLineEnds] at h
        exact absurd (List.cons.inj h).1 hline.1
      | case3 c rest' hnot =>
        rw [unifyLineEnds.eq_3 _ _ hnot] at h
        obtain ⟨hx, hrest⟩ := List.cons.inj h
        obtain ⟨c', rest'', hc', rfl⟩ := ih hline.2 hrest
        by_cases hc : c = '\r'
        · rw [if_pos hc] at hx
          exact absurd hx hline.1
        · rw [if_neg hc] at hx
          exact ⟨c', rest'', hc', by rw [hx, List.cons_append]⟩

/-- Whatever reads as a module is known as a compiled one. -/
theorem isCompiled_of_textOf? {content : ByteArray} {source : String} (hsource : IsModuleSource source)
    (h : textOf? content = some source) : isCompiled content = true := by
  obtain ⟨s, hs, rfl⟩ := Option.map_eq_some_iff.1 h
  obtain ⟨rest, hrest⟩ := hsource.header
  rw [String.toList_ofList] at hrest
  obtain ⟨c, rest', hc, hlist⟩ := exists_of_unifyLineEnds (by decide) hrest
  have hs' : s = headerLine ++ (String.ofList [c] ++ String.ofList rest') := by
    apply String.toList_injective
    simp [hlist]
  obtain ⟨b, hb, hend⟩ : ∃ b, (b = 10 ∨ b = 13) ∧ (String.ofList [c]).toUTF8.toList = [b] := by
    simp only [toList_eq_data]
    rcases hc with rfl | rfl
    · exact ⟨10, .inl rfl, by decide⟩
    · exact ⟨13, .inr rfl, by decide⟩
  have hbytes : content.toList =
      headerLine.toUTF8.toList ++ b :: (String.ofList rest').toUTF8.toList := by
    rw [← toUTF8_eq_of_fromUTF8? hs, hs', toList_toUTF8_append, toList_toUTF8_append, hend,
      List.singleton_append]
  exact isCompiled_of_toList hb hbytes

/-- Whether a name in a directory is that of a module and of a file with the header. -/
def CompiledIn (t : FileTree) (dir : Path) (name : String) : Prop :=
  isModuleFile name = true ∧ ∃ content, t.read (dir.entry name) = .ok content ∧
    isCompiled content = true

/-- What it takes to be a compiled module in a directory, by the entry at its place. -/
theorem compiledIn_iff (hdir : t.isDirectory? dir = .ok true) :
    CompiledIn t dir name ↔ isModuleFile name = true ∧ Reaches dir name ∧
      ∃ content, t.entryAt (t.target dir ++ [name]) = some (.file content) ∧
        isCompiled content = true := by
  rw [CompiledIn, and_congr_right_iff]
  intro hmodule
  simp only [read_eq_ok, locate_entry hdir (ne_dots_of_isModuleFile hmodule)]
  grind

/-- Where a module is found there is its file. -/
theorem CompiledIn.entryAt (h : CompiledIn t dir name) :
    ∃ content, t.entryAt (t.target dir ++ [name]) = some (.file content) ∧
      isCompiled content = true := by
  obtain ⟨hmodule, content, hread, hcompiled⟩ := h
  obtain ⟨loc, hlocate, hfile⟩ := read_eq_ok.1 hread
  have htarget : t.target (dir.entry name) = follow (t.target dir) name := by
    rw [FileTree.target, Path.entry, List.foldl_append]
    rfl
  rw [eq_target_of_locate hlocate, htarget, follow, if_neg (ne_dots_of_isModuleFile hmodule)] at hfile
  exact ⟨content, hfile, hcompiled⟩

/-- The modules that are removed are those of the directory that are no artifacts. -/
theorem stale_iff (hdir : t.isDirectory? dir = .ok true) :
    Stale t dir artifacts name ↔ OrderedMap.has artifacts name = false ∧ CompiledIn t dir name := by
  rw [compiledIn_iff hdir]
  exact ⟨fun h => ⟨h.not_artifact, h.isModuleFile, h.reaches, h.compiled⟩,
    fun ⟨hnot, hmodule, hreaches, hcompiled⟩ => ⟨hdir, hmodule, hnot, hreaches, hcompiled⟩⟩

/-! ## Where a write can change a tree -/

/-- How a write changes a tree at a location: an artifact is written there, a module is removed, or
a directory is made on its way. -/
inductive Touches (t t' : FileTree) (dir : Path) (artifacts : Artifacts) (x : Location) : Prop where
  | artifact {e : String × String} (he : e ∈ artifacts) (hx : x = t.target dir ++ [e.1])
      (hfile : ∃ content, t'.entryAt x = some (.file content))
      (hnot : t.entryAt x ≠ some .directory)
  | stale {name : String} (hstale : Stale t dir artifacts name) (hx : x = t.target dir ++ [name])
      (hgone : t'.entryAt x = none)
  | directory (hnone : t.entryAt x = none) (hdir : t'.entryAt x = some .directory)
      (hway : ∃ names, names <+: dir.names ∧ x = names.foldl follow (t.start dir))

/-- Making a directory adds directories on the way and nothing else. -/
theorem directory_of_extends (h : Extends t t' dir) (hne : t'.entryAt x ≠ t.entryAt x) :
    t.entryAt x = none ∧ t'.entryAt x = some .directory ∧
      ∃ names, names <+: dir.names ∧ x = names.foldl follow (t.start dir) := by
  cases hentry : t.entryAt x with
  | some e => exact absurd ((h.entryAt_eq_some hentry).trans hentry.symm) hne
  | none =>
      cases hentry' : t'.entryAt x with
      | none => exact absurd (hentry'.trans hentry.symm) hne
      | some e =>
          cases e with
          | file content =>
              rw [h.files, hentry] at hentry'
              cases hentry'
          | directory =>
              have hway := (h.directories x hentry').resolve_left (by rw [hentry]; nofun)
              exact ⟨rfl, rfl, hway⟩

/-- Where a file was written there was no directory. -/
theorem Overwrites.not_directory {content : ByteArray} (hwf : t.WellFormed)
    (h : Overwrites t t' dir artifacts done) (hfile : t'.entryAt x = some (.file content)) :
    t.entryAt x ≠ some .directory := by
  intro hdir
  have hdir' := h.keeps.directories x ((extends_made hwf dir).keeps.directories x hdir)
  rw [hfile] at hdir'
  cases hdir'

/-- Overwriting artifacts changes nothing but their places. -/
theorem Overwrites.touches (hwf : t.WellFormed) (h : Overwrites t t' dir artifacts done)
    (hdone : ∀ e ∈ done, e ∈ artifacts) (hne : t'.entryAt x ≠ t.entryAt x) :
    Touches t t' dir artifacts x := by
  by_cases hartifact : ∃ e ∈ done, x = t.target dir ++ [e.1]
  · obtain ⟨e, he, hx⟩ := hartifact
    have hfile := h.written e he
    rw [← hx] at hfile
    exact .artifact (hdone e he) hx ⟨_, hfile⟩ (h.not_directory hwf hfile)
  · by_cases hstale : ∃ name, Stale t dir artifacts name ∧ x = t.target dir ++ [name]
    · obtain ⟨name, hstale, hx⟩ := hstale
      exact .stale hstale hx (hx ▸ h.removed name hstale)
    · have hsame : t'.entryAt x = (made t dir).entryAt x := h.others x (by grind) (by grind)
      rw [hsame] at hne
      obtain ⟨hnone, hdir, hway⟩ := directory_of_extends (extends_made hwf dir) hne
      exact .directory hnone (hsame.trans hdir) hway

/-- **A write changes a tree** in such places only, however it ends. -/
theorem touches_of_ne (hwf : t.WellFormed) (hpackage : IsPackage artifacts)
    (hne : (write t dir artifacts).tree.entryAt x ≠ t.entryAt x) :
    Touches t (write t dir artifacts).tree dir artifacts x := by
  cases ends_write dir hwf hpackage with
  | refused _ _ hextends =>
      obtain ⟨hnone, hdir, hway⟩ := directory_of_extends hextends hne
      exact .directory hnone hdir hway
  | blocked _ _ htree =>
      obtain ⟨name, hname, hx⟩ :
          ∃ name, Found t dir artifacts name ∧ x = t.target dir ++ [name] := by
        by_contra hnone
        exact hne (htree.entryAt_other fun name hname heq => hnone ⟨name, hname, heq⟩)
      exact .stale hname.stale hx (hx ▸ htree.entryAt_found hname)
  | completed _ _ _ _ htree => exact htree.touches hwf (fun _ => id) hne
  | stopped _ _ heq _ _ _ htree => exact htree.touches hwf (by simp +contextual [heq]) hne

/-! ## Effects -/

section Completed

variable {w : Written} (hwf : t.WellFormed) (h : Completed t dir artifacts w)
include hwf h

/-- A completed write leaves the directory of the package behind. -/
theorem Completed.isDirectory? : w.tree.isDirectory? dir = .ok true :=
  h.tree.isDirectory? hwf h.canMake

/-- What was written is there as a module. -/
theorem Completed.compiledIn_artifact {e : String × String} (hpackage : IsPackage artifacts)
    (he : e ∈ artifacts) : CompiledIn w.tree dir e.1 := by
  have hmodule := hpackage.isModuleFile e he
  have hsource := hpackage.isModuleSource e he
  exact ⟨hmodule, _, h.read_eq_ok hwf hpackage he,
    isCompiled_of_textOf? hsource (textOf?_settled hsource _)⟩

/-- What was removed is there no more. -/
theorem Completed.not_compiledIn_of_stale (hstale : Stale t dir artifacts name) :
    ¬ CompiledIn w.tree dir name := by
  intro hcompiled
  obtain ⟨content, hfile, -⟩ := hcompiled.entryAt
  rw [h.tree.target hwf, h.tree.removed name hstale] at hfile
  cases hfile

/-- What was neither written nor removed is as it was once the directory was made. -/
theorem Completed.compiledIn_other (hnot : name ∉ artifacts.keys)
    (hstale : ¬ Stale t dir artifacts name) :
    CompiledIn w.tree dir name ↔ CompiledIn (made t dir) dir name := by
  have hsame : w.tree.entryAt (t.target dir ++ [name]) =
      (made t dir).entryAt (t.target dir ++ [name]) := by
    refine h.tree.others _ (fun e he heq => hnot ?_) (fun n hn heq => hstale ?_)
    · rw [name_inj heq]
      exact List.mem_map_of_mem he
    · rwa [name_inj heq]
  rw [compiledIn_iff (h.isDirectory? hwf), compiledIn_iff (isDirectory?_made hwf h.canMake),
    h.tree.target hwf, target_made hwf, hsame]

/-- The modules in a directory after a package was written are the artifacts.  Where the directory
could not be entered before, the modules that show once it is made have been left. -/
theorem Completed.compiledIn_iff_mem_keys (hpackage : IsPackage artifacts) :
    CompiledIn w.tree dir name ↔ name ∈ artifacts.keys ∨
      t.isDirectory? dir ≠ .ok true ∧ CompiledIn (made t dir) dir name := by
  by_cases hname : name ∈ artifacts.keys
  · obtain ⟨e, he, rfl⟩ := List.mem_map.1 hname
    exact iff_of_true (h.compiledIn_artifact hwf hpackage he) (.inl hname)
  · rw [or_iff_right hname]
    by_cases hstale : Stale t dir artifacts name
    · exact iff_of_false (h.not_compiledIn_of_stale hwf hstale)
        fun hleft => hleft.1 hstale.isDirectory
    · rw [h.compiledIn_other hwf hname hstale, iff_and_self]
      intro hcompiled hdir
      rw [made_of_isDirectory? hdir] at hcompiled
      exact hstale ((stale_iff hdir).2 ⟨OrderedMap.has_eq_false_iff.2 hname, hcompiled⟩)

/-- A name was removed exactly when something is there no more. -/
theorem Completed.stale_iff_vanishes :
    Stale t dir artifacts name ↔ t.entryAt (t.target dir ++ [name]) ≠ none ∧
      w.tree.entryAt (t.target dir ++ [name]) = none := by
  constructor
  · intro hstale
    obtain ⟨content, hfile, -⟩ := hstale.compiled
    exact ⟨by simp [hfile], h.tree.removed name hstale⟩
  · rintro ⟨hthere, hgone⟩
    have hne : w.tree.entryAt (t.target dir ++ [name]) ≠ t.entryAt (t.target dir ++ [name]) := by
      rw [hgone]
      exact hthere.symm
    cases h.tree.touches hwf (fun _ => id) hne with
    | artifact _ _ hfile =>
        obtain ⟨content, hfile⟩ := hfile
        rw [hgone] at hfile
        cases hfile
    | stale hstale hx => rwa [name_inj hx]
    | directory hnone => exact absurd hnone hthere

end Completed

/-- What is reported of a module, by what became of its file. -/
def told (t t' : FileTree) (dir : Path) (name : String) : Record :=
  if t'.entryAt (t.target dir ++ [name]) = t.entryAt (t.target dir ++ [name]) then
    unchanged dir name
  else wrote dir name

/-- A module is reported as unchanged exactly when the bytes of its file are the same. -/
theorem Overwrites.reported_eq {e : String × String} (hwf : t.WellFormed)
    (h : Overwrites t t' dir artifacts done) (he : e ∈ done) (hsource : IsModuleSource e.2) :
    reported dir e.1 e.2 ((made t dir).entryAt (t.target dir ++ [e.1])) =
      told t t' dir e.1 := by
  have hfiles := (extends_made hwf dir).files
  have hsame : reads e.2 ((made t dir).entryAt (t.target dir ++ [e.1])) = true ↔
      t'.entryAt (t.target dir ++ [e.1]) = t.entryAt (t.target dir ++ [e.1]) := by
    rw [h.written e he, reads_eq_true_iff]
    constructor
    · rintro ⟨content, hcontent, htext⟩
      have hfile : t.entryAt (t.target dir ++ [e.1]) = some (.file content) :=
        (hfiles _ content).1 hcontent
      rw [hfile, settled_of_reads htext]
    · intro hsettled
      exact ⟨_, (hfiles _ _).2 hsettled.symm, textOf?_settled hsource _⟩
  rw [reported, told]
  simp only [hsame]

/-- Where nothing was at the end of the path there is no module once the directory is made. -/
theorem not_compiledIn_made (hwf : t.WellFormed) (hmissing : t.entryAt (t.target dir) = none) :
    ¬ CompiledIn (made t dir) dir name := by
  intro hcompiled
  obtain ⟨content, hfile, -⟩ := hcompiled.entryAt
  rw [target_made hwf, (extends_made hwf dir).files] at hfile
  have hnone := hwf.none_below (by rw [hmissing]; nofun) (List.cons_ne_nil name [])
  rw [hfile] at hnone
  cases hnone

/-- What a write that succeeds has done, and what it says of it. -/
structure Effects (t : FileTree) (dir : Path) (artifacts : Artifacts) (w : Written) : Prop where
  /-- The modules are the artifacts where the directory could be entered or was missing. -/
  modules : (t.isDirectory? dir = .ok true ∨ t.entryAt (t.target dir) = none) →
    ∀ name, CompiledIn w.tree dir name ↔ name ∈ artifacts.keys
  /-- Otherwise modules that show once the directory is made have been left. -/
  left : t.isDirectory? dir ≠ .ok true → ∀ name, CompiledIn w.tree dir name ↔
    name ∈ artifacts.keys ∨ CompiledIn (made t dir) dir name
  /-- Nothing else that was there has changed. -/
  kept : ∀ x e, t.entryAt x = some e → (∀ a ∈ artifacts, x ≠ t.target dir ++ [a.1]) →
    (∀ name, CompiledIn t dir name → x ≠ t.target dir ++ [name]) → w.tree.entryAt x = some e
  /-- Nothing is new but artifacts and the directories on the way. -/
  new : ∀ x e, t.entryAt x = none → w.tree.entryAt x = some e →
    (∃ a ∈ artifacts, x = t.target dir ++ [a.1]) ∨
      e = .directory ∧ ∃ names, names <+: dir.names ∧ x = names.foldl follow (t.start dir)
  /-- The log tells of what is there no more, and then of every artifact. -/
  log : ∃ names : List String, names.Pairwise (· < ·) ∧
    (∀ name, name ∈ names ↔ t.entryAt (t.target dir ++ [name]) ≠ none ∧
      w.tree.entryAt (t.target dir ++ [name]) = none) ∧
    w.log = names.map (removed dir) ++ artifacts.map fun e => told t w.tree dir e.1

/-- A completed write has the effects promised. -/
theorem Completed.effects {w : Written} (hwf : t.WellFormed) (hdistinct : t.Distinct)
    (hpackage : IsPackage artifacts) (h : Completed t dir artifacts w) :
    Effects t dir artifacts w where
  modules hdir name := by
    rw [h.compiledIn_iff_mem_keys hwf hpackage, or_iff_left]
    rintro ⟨hnot, hcompiled⟩
    exact not_compiledIn_made hwf (hdir.resolve_left hnot) hcompiled
  left hdir name := by
    rw [h.compiledIn_iff_mem_keys hwf hpackage, and_iff_right hdir]
  kept x e hentry hartifact hcompiled := by
    by_contra hne
    rw [← hentry] at hne
    cases h.tree.touches hwf (fun _ => id) hne with
    | artifact he hx => exact hartifact _ he hx
    | stale hstale hx => exact hcompiled _ ((stale_iff hstale.isDirectory).1 hstale).2 hx
    | directory hnone => simp [hentry] at hnone
  new x e hnone hentry := by
    have hne : w.tree.entryAt x ≠ t.entryAt x := by simp [hnone, hentry]
    cases h.tree.touches hwf (fun _ => id) hne with
    | artifact he hx => exact .inl ⟨_, he, hx⟩
    | stale _ _ hgone => simp [hentry] at hgone
    | directory _ hdir hway =>
        rw [hentry] at hdir
        exact .inr ⟨Option.some.inj hdir, hway⟩
  log := by
    refine ⟨(staleNames t artifacts dir).1, pairwise_staleNames hdistinct, fun name => ?_, ?_⟩
    · rw [mem_staleNames_iff, found_iff h.not_blocks, h.stale_iff_vanishes hwf]
    · rw [h.log, reports, target_made hwf]
      congr 1
      exact List.map_congr_left fun e he =>
        h.tree.reported_eq hwf he (hpackage.isModuleSource e he)

/-- **A write that succeeds** leaves the artifacts as the modules of the directory, and says of
every file what became of it. -/
theorem effects_of_write (hwf : t.WellFormed) (hdistinct : t.Distinct) {m : Model}
    (hm : m.IsCompiled) {paths : List Path}
    (h : (write t dir (Package.artifacts m)).outcome = .ok paths) :
    Effects t dir (Package.artifacts m) (write t dir (Package.artifacts m)) := by
  have hpackage := isPackage_artifacts hm.wellNamed
  exact (completed_of_ok hwf hpackage h).effects hwf hdistinct hpackage

theorem effects_of_write_mixedFiles :
    ∃ c, (Compilation.compile twoLocales resSettings).1 = .ok c ∧ mixedFiles.WellFormed ∧
      mixedFiles.Distinct ∧
      (∃ paths, (write mixedFiles genDir (Package.artifacts c.model)).outcome = .ok paths) ∧
      Effects mixedFiles genDir (Package.artifacts c.model)
        (write mixedFiles genDir (Package.artifacts c.model)) ∧
      ¬ CompiledIn (write mixedFiles genDir (Package.artifacts c.model)).tree genDir
        "strings_old.py" := by
  obtain ⟨c, hc, hcompiled, hnames, paths, houtcome⟩ := write_mixedFiles
  have hdistinct : mixedFiles.Distinct := by
    unfold Distinct
    decide
  have heffects := effects_of_write wellFormed_mixedFiles hdistinct hcompiled houtcome
  refine ⟨c, hc, wellFormed_mixedFiles, hdistinct, ⟨paths, houtcome⟩, heffects, ?_⟩
  rw [heffects.modules (.inl isDirectory?_mixedFiles)]
  exact fun hmem => (hnames _ hmem).1 rfl

/-! ### A turn that is not there yet -/

/-- A path that turns back from a directory. -/
def turnDir : Path := ⟨.relative, ["gen", "new", "..", "pkg"]⟩

/-- A tree in which the directory where that path turns is missing, and an earlier module lies at
its end. -/
def missingTurn : FileTree where
  workingDir := []
  entries := [
    (["gen"], .directory),
    (["gen", "pkg"], .directory),
    (["gen", "pkg", "strings_old.py"], .file (headerLine ++ "\n").toUTF8)]

theorem wellFormed_missingTurn : missingTurn.WellFormed :=
  wellFormed_of_entries (by decide) rfl

/-- On the way along that path are directories, and locations with nothing at them. -/
theorem way_missingTurn : ∀ names ∈ turnDir.names.inits,
    (names.foldl follow (missingTurn.start turnDir)).length < 3 ∧
      (missingTurn.entryAt (names.foldl follow (missingTurn.start turnDir)) = none ∨
        missingTurn.entryAt (names.foldl follow (missingTurn.start turnDir)) =
          some .directory) := by
  decide

/-- The directory can be made although the way goes through one that is missing. -/
theorem canMake_missingTurn : CanMake missingTurn turnDir where
  fits := by decide
  length_le := by decide
  no_file names hnames content hfile := by
    have hway := (way_missingTurn names ((List.mem_inits _ _).2 hnames)).2
    rw [hfile] at hway
    simp at hway

/-- What lies at the end of that path once it can be followed. -/
theorem entryAt_made_missingTurn {name : String} {e : FileEntry}
    (h : (made missingTurn turnDir).entryAt (missingTurn.target turnDir ++ [name]) = some e) :
    e = .file (headerLine ++ "\n").toUTF8 := by
  have hextends := extends_made wellFormed_missingTurn turnDir
  have hthere : missingTurn.entryAt ["gen", "pkg", name] = some e := by
    cases e with
    | file content => exact (hextends.files _ content).1 h
    | directory =>
        rcases hextends.directories _ h with hdir | ⟨names, hnames, heq⟩
        · exact hdir
        · have hlength := (way_missingTurn names ((List.mem_inits _ _).2 hnames)).1
          rw [← heq, List.length_append, List.length_singleton] at hlength
          exact absurd hlength (by decide)
  have hmem : (["gen", "pkg", name], e) ∈ missingTurn.entries := OrderedMap.mem_of_get? hthere
  rw [missingTurn, List.mem_cons, List.mem_cons, List.mem_singleton] at hmem
  simp at hmem
  exact hmem.2

/-- That path is followed after the write, and leads to the earlier module. -/
theorem compiledIn_made_missingTurn :
    CompiledIn (made missingTurn turnDir) turnDir "strings_old.py" := by
  have hdir := isDirectory?_made wellFormed_missingTurn canMake_missingTurn
  refine (compiledIn_iff hdir).2 ⟨by decide, by decide, (headerLine ++ "\n").toUTF8, ?_,
    isCompiled_header⟩
  rw [target_made wellFormed_missingTurn]
  exact ((extends_made wellFormed_missingTurn turnDir).files _ _).2 rfl

/-- A write succeeds and leaves an earlier module, as the directory where the path turns is made
only after earlier modules were looked for. -/
theorem not_cleared_missing_turn :
    ∃ c, (Compilation.compile twoLocales resSettings).1 = .ok c ∧ missingTurn.WellFormed ∧
      (∃ paths, (write missingTurn turnDir (Package.artifacts c.model)).outcome = .ok paths) ∧
      ∃ name, name ∉ (Package.artifacts c.model).keys ∧
        CompiledIn (write missingTurn turnDir (Package.artifacts c.model)).tree turnDir name := by
  obtain ⟨c, hc, hkeys⟩ := keys_twoLocales
  have hcompiled : c.model.IsCompiled := ⟨twoLocales, resSettings, c, hc, rfl⟩
  have hnames : ∀ name ∈ (Package.artifacts c.model).keys,
      name ≠ "strings_old.py" ∧ Reaches turnDir name := by
    rw [hkeys]
    decide
  have hpackage := isPackage_artifacts hcompiled.wellNamed
  have hall : ∀ e ∈ Package.artifacts c.model,
      Writable (made missingTurn turnDir) turnDir e.1 := by
    intro e he
    have hreaches := (hnames e.1 (List.mem_map_of_mem he)).2
    refine writable_of_text hreaches fun entry hentry => ?_
    rw [target_made wellFormed_missingTurn] at hentry
    exact ⟨_, entryAt_made_missingTurn hentry⟩
  have hdir : missingTurn.isDirectory? turnDir = .ok false := by decide
  have hfree : ∀ b, ¬ Blocks missingTurn turnDir (Package.artifacts c.model) b :=
    fun b hb => nomatch hdir.symm.trans hb.isDirectory
  have hcan : CanWrite missingTurn turnDir (Package.artifacts c.model) :=
    ⟨canMake_missingTurn, hfree, hall⟩
  have hok := hcan.outcome_eq_ok wellFormed_missingTurn hpackage
  have hdone := completed_of_ok wellFormed_missingTurn hpackage hok
  refine ⟨c, hc, wellFormed_missingTurn, ⟨_, hok⟩, "strings_old.py",
    fun hmem => (hnames _ hmem).1 rfl, ?_⟩
  rw [hdone.compiledIn_iff_mem_keys wellFormed_missingTurn hpackage]
  exact .inr ⟨by rw [hdir]; nofun, compiledIn_made_missingTurn⟩

/-! ## Files of other origin -/

/-- What becomes of files without the header. -/
structure Spares (t : FileTree) (dir : Path) (artifacts : Artifacts) (w : Written) : Prop where
  /-- They are kept, however the write ends, if no module has their name. -/
  kept : ∀ x content, t.entryAt x = some (.file content) → isCompiled content = false →
    (∀ e ∈ artifacts, x ≠ t.target dir ++ [e.1]) → w.tree.entryAt x = some (.file content)
  /-- A module that has their name replaces them. -/
  replaced : ∀ e ∈ artifacts, ∀ content,
    t.entryAt (t.target dir ++ [e.1]) = some (.file content) → isCompiled content = false →
    ∀ paths, w.outcome = .ok paths →
      w.tree.entryAt (t.target dir ++ [e.1]) = some (.file e.2.toUTF8)

/-- A file without the header does not read as a module. -/
theorem reads_of_not_isCompiled {source : String} {content : ByteArray}
    (hsource : IsModuleSource source) (h : isCompiled content = false) :
    reads source (some (.file content)) = false := by
  by_contra hreads
  rw [Bool.not_eq_false, reads_eq_true_iff] at hreads
  obtain ⟨content', hcontent, htext⟩ := hreads
  cases hcontent
  rw [isCompiled_of_textOf? hsource htext] at h
  cases h

/-- A file of an artifact's name is replaced, whoever wrote it. -/
theorem Overwrites.replaces {e : String × String} {content : ByteArray}
    (h : Overwrites t t' dir artifacts done) (he : e ∈ done) (hsource : IsModuleSource e.2)
    (hfile : t.entryAt (t.target dir ++ [e.1]) = some (.file content))
    (hcompiled : isCompiled content = false) :
    t'.entryAt (t.target dir ++ [e.1]) = some (.file e.2.toUTF8) := by
  rw [h.written e he, hfile, settled_of_not_reads (reads_of_not_isCompiled hsource hcompiled)]

/-- **A write spares files without the header**, but for those under the name of a module. -/
theorem spares_write (hwf : t.WellFormed) {m : Model} (hm : m.IsCompiled) :
    Spares t dir (Package.artifacts m) (write t dir (Package.artifacts m)) := by
  have hpackage := isPackage_artifacts hm.wellNamed
  refine ⟨fun x content hfile hcompiled hname => ?_, fun e he content hfile hcompiled paths hok => ?_⟩
  · by_contra hne
    rw [← hfile] at hne
    cases touches_of_ne hwf hpackage hne with
    | artifact he hx => exact hname _ he hx
    | stale hstale hx =>
        obtain ⟨content', hfile', hcompiled'⟩ := hstale.compiled
        rw [← hx, hfile] at hfile'
        cases hfile'
        rw [hcompiled] at hcompiled'
        cases hcompiled'
    | directory hnone => simp [hfile] at hnone
  · exact (completed_of_ok hwf hpackage hok).tree.replaces he (hpackage.isModuleSource e he) hfile
      hcompiled

theorem face_mem_artifacts {m : Model} (h : m.WellNamed) :
    (faceFile, faceSource) ∈ Package.artifacts m := by
  rw [artifacts_eq h]
  simp

/-- Neither of the files written by hand has the header of a compiled module. -/
theorem isCompiled_mixedFiles :
    isCompiled "# kept\n".toUTF8 = false ∧ isCompiled "# mine\n".toUTF8 = false := by
  decide +kernel

theorem spares_write_mixedFiles :
    ∃ c, (Compilation.compile twoLocales resSettings).1 = .ok c ∧ mixedFiles.WellFormed ∧
      (write mixedFiles genDir (Package.artifacts c.model)).tree.entryAt ["gen", "notes.py"] =
        some (.file "# kept\n".toUTF8) := by
  obtain ⟨c, hc, hcompiled, hnames, -⟩ := write_mixedFiles
  refine ⟨c, hc, wellFormed_mixedFiles,
    (spares_write wellFormed_mixedFiles hcompiled).kept _ _ rfl isCompiled_mixedFiles.1 ?_⟩
  intro e he heq
  exact (hnames _ (List.mem_map_of_mem he)).2 (List.cons.inj (List.cons.inj heq).2).1.symm

/-- A file without the header is lost when a module has its name. -/
theorem not_spared_face :
    ∃ c, (Compilation.compile twoLocales resSettings).1 = .ok c ∧ c.model.IsCompiled ∧
      mixedFiles.entryAt ["gen", faceFile] = some (.file "# mine\n".toUTF8) ∧
      isCompiled "# mine\n".toUTF8 = false ∧
      (write mixedFiles genDir (Package.artifacts c.model)).tree.entryAt ["gen", faceFile] ≠
        some (.file "# mine\n".toUTF8) := by
  obtain ⟨c, hc, hcompiled, -, paths, hok⟩ := write_mixedFiles
  have hpackage := isPackage_artifacts hcompiled.wellNamed
  have hmem := face_mem_artifacts hcompiled.wellNamed
  have hsource := hpackage.isModuleSource _ hmem
  have hmine : mixedFiles.entryAt (mixedFiles.target genDir ++ [faceFile]) =
      some (.file "# mine\n".toUTF8) := rfl
  have hreplaced := (completed_of_ok wellFormed_mixedFiles hpackage hok).tree.replaces hmem hsource
    hmine isCompiled_mixedFiles.2
  refine ⟨c, hc, hcompiled, rfl, isCompiled_mixedFiles.2, fun hsame => ?_⟩
  have hsame' : faceSource.toUTF8 = "# mine\n".toUTF8 :=
    FileEntry.file.inj (Option.some.inj (hreplaced.symm.trans hsame))
  have hcompiled' := isCompiled_toUTF8 hsource
  rw [hsame', isCompiled_mixedFiles.2] at hcompiled'
  cases hcompiled'

end StringCatalog.Package
