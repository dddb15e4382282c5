import StringCatalog.Proofs.Wiring
import StringCatalog.Proofs.Writing

/-!
# StringCatalog.Proofs.Rewriting

Packages written one after the other into one directory.  What the directory
holds after a write depends on the last model only.

* `CanHold`, `Holds` — what a directory can hold, and what it holds;
* `Passable` — whether the search for earlier modules goes through in it;
* `packageWritten_write` — what one write does, whatever was there of earlier
  ones;
* `write_again` — a write of what is there leaves everything as it is;
* `write_history_independent` — all of it after any number of writes.
-/

namespace StringCatalog.Package

open FileTree

variable {t t' : FileTree} {dir : Path} {artifacts : Artifacts}

/-! ## A package -/

/-- Whether a directory can hold a package: nothing is in the way of making it, and every name is
accepted in it then. -/
structure CanHold (t : FileTree) (dir : Path) (artifacts : Artifacts) : Prop where
  canMake : CanMake t dir
  accepts : ∀ e ∈ artifacts, Accepts (t.makeDirs dir).1 dir e.1

/-- A directory that holds the artifacts and nothing else; directories lie in it only where the path
itself goes through them. -/
structure Holds (t : FileTree) (dir : Path) (artifacts : Artifacts) : Prop where
  isDirectory : t.isDirectory? dir = .ok true
  files : ∀ below content, t.entryAt (t.target dir ++ below) = some (.file content) ↔
    ∃ e ∈ artifacts, below = [e.1] ∧ content = e.2.toUTF8
  directories : ".." ∉ dir.names → ∀ below, below ≠ [] →
    t.entryAt (t.target dir ++ below) ≠ some .directory

/-- What stays as it is when packages are written: the directories that are there once the one of
the package is made. -/
structure Agrees (t t' : FileTree) (dir : Path) : Prop where
  keeps : Keeps t t'
  canMake : CanMake t' dir ↔ CanMake t dir
  made_keeps : CanMake t dir → Keeps (t.makeDirs dir).1 (t'.makeDirs dir).1
  made_kept : CanMake t dir → Keeps (t'.makeDirs dir).1 (t.makeDirs dir).1

theorem Agrees.refl (t : FileTree) (dir : Path) : Agrees t t dir :=
  ⟨Keeps.refl t, Iff.rfl, fun _ => Keeps.refl _, fun _ => Keeps.refl _⟩

/-- Trees that agree with a third agree. -/
theorem Agrees.trans {t'' : FileTree} (h : Agrees t t' dir) (h' : Agrees t' t'' dir) :
    Agrees t t'' dir where
  keeps := h.keeps.trans h'.keeps
  canMake := h'.canMake.trans h.canMake
  made_keeps hcan := (h.made_keeps hcan).trans (h'.made_keeps (h.canMake.2 hcan))
  made_kept hcan := (h'.made_kept (h.canMake.2 hcan)).trans (h.made_kept hcan)

/-- In a directory that is there files come and go. -/
theorem Agrees.of_isDirectory? (hdir : t.isDirectory? dir = .ok true) (hkeeps : Keeps t t')
    (hkept : Keeps t' t) : Agrees t t' dir := by
  have hdir' := hkeeps.isDirectory? hdir
  refine ⟨hkeeps, iff_of_true (canMake_of_isDirectory? hdir') (canMake_of_isDirectory? hdir),
    fun _ => ?_, fun _ => ?_⟩
  · rw [makeDirs_of_isDirectory? hdir, makeDirs_of_isDirectory? hdir']
    exact hkeeps
  · rw [makeDirs_of_isDirectory? hdir, makeDirs_of_isDirectory? hdir']
    exact hkept

/-- Making the directory is done once. -/
theorem Agrees.makeDirs (hwf : t.WellFormed) (dir : Path) : Agrees t (t.makeDirs dir).1 dir := by
  obtain ⟨hextends, hdir⟩ := makeDirs_spec hwf (p := dir)
  have hagain : CanMake t dir → ((t.makeDirs dir).1.makeDirs dir).1 = (t.makeDirs dir).1 :=
    fun hcan => by rw [makeDirs_of_isDirectory? (hdir ((makeDirs_eq_ok_iff hwf).2 hcan))]
  refine ⟨hextends.keeps, hextends.canMake, fun hcan => ?_, fun hcan => ?_⟩
  · rw [hagain hcan]
    exact Keeps.refl _
  · rw [hagain hcan]
    exact Keeps.refl _

/-- What can be held does not depend on the packages that were written. -/
theorem Agrees.canHold (h : Agrees t t' dir) (artifacts : Artifacts) :
    CanHold t' dir artifacts ↔ CanHold t dir artifacts := by
  constructor
  · rintro ⟨hcan, haccepts⟩
    have hcan' := h.canMake.1 hcan
    exact ⟨hcan', fun e he => (haccepts e he).of_keeps (h.made_keeps hcan')⟩
  · rintro ⟨hcan, haccepts⟩
    exact ⟨h.canMake.2 hcan, fun e he => (haccepts e he).of_keeps (h.made_kept hcan)⟩

/-- Where the path does not lead back, no directory is in the way of a file. -/
theorem Clean.canHold_iff (h : Clean t dir) (hdots : ".." ∉ dir.names) :
    CanHold t dir artifacts ↔ CanMake t dir ∧ ∀ e ∈ artifacts, Reaches dir e.1 := by
  have hclean := h.extends (makeDirs_spec h.wellFormed).1
  constructor
  · exact fun hcan => ⟨hcan.canMake, fun e he => (hcan.accepts e he).1⟩
  · rintro ⟨hcan, hreaches⟩
    exact ⟨hcan, fun e he => ⟨hreaches e he, hclean.directories hdots _ (List.cons_ne_nil _ _)⟩⟩

/-- Whether the search for earlier modules goes through in a directory once it is made: no directory
that lies in it breaks the search off. -/
def Passable (t : FileTree) (dir : Path) (artifacts : Artifacts) : Prop :=
  ∀ b, ¬ Blocks (t.makeDirs dir).1 dir artifacts b

/-- Where the path does not lead back, no directory lies in the one it leads to. -/
theorem Clean.passable (h : Clean t dir) (hdots : ".." ∉ dir.names) : Passable t dir artifacts := by
  intro b hb
  have hclean := h.extends (makeDirs_spec h.wellFormed).1
  obtain ⟨-, -, hthere, -, hlong⟩ := (blocks_iff hb.isDirectory).1 hb
  cases hentry : (t.makeDirs dir).1.entryAt ((t.makeDirs dir).1.target dir ++ [b]) with
  | none => exact hthere hentry
  | some e =>
      cases e with
      | file content =>
          obtain ⟨name, source, heq, hreaches, -⟩ := hclean.files [b] content hentry
          cases heq
          exact hlong hreaches
      | directory => exact hclean.directories hdots [b] (List.cons_ne_nil b []) hentry

/-- In a directory that is there what breaks the search off does not depend on the packages that
were written. -/
theorem Agrees.passable (h : Agrees t t' dir) (hclean : Clean t dir) (hclean' : Clean t' dir)
    (hdir : t'.isDirectory? dir = .ok true) :
    (∀ b, ¬ Blocks t' dir artifacts b) ↔ Passable t dir artifacts := by
  have hcan := h.canMake.1 (canMake_of_isDirectory? hdir)
  have hmade := (makeDirs_of_isDirectory? hdir).symm ▸ h.made_keeps hcan
  have hkept := (makeDirs_of_isDirectory? hdir).symm ▸ h.made_kept hcan
  have hclean'' := hclean.extends (makeDirs_spec hclean.wellFormed).1
  exact forall_congr' fun b => not_congr ⟨hclean'.blocks_of_keeps hkept,
    hclean''.blocks_of_keeps hmade⟩

/-- What comes of removing the earlier modules. -/
structure Cleared (t : FileTree) (dir : Path) (artifacts : Artifacts) (t' : FileTree) : Prop where
  clean : Clean t' dir
  agrees : Agrees t t' dir
  files : (∀ b, ¬ Blocks t dir artifacts b) → ∀ name content,
    t'.entryAt (t'.target dir ++ [name]) = some (.file content) →
      OrderedMap.has artifacts name = true

/-- After stale modules were removed from a clean directory, nothing but artifacts is left. -/
theorem cleared_removeAll (h : Clean t dir) (artifacts : Artifacts) :
    Cleared t dir artifacts (removeAll t dir (staleNames t artifacts dir).1) := by
  by_cases hdir : t.isDirectory? dir = .ok true
  · have hremoves := removes_staleNames h.wellFormed artifacts dir
    refine ⟨h.removes hdir hremoves, Agrees.of_isDirectory? hdir hremoves.keeps hremoves.kept,
      fun hfree name content hfile => ?_⟩
    rw [hremoves.keeps.target, hremoves.entryAt] at hfile
    split at hfile
    · cases hfile
    · next hnot =>
      by_contra hhas
      rw [Bool.not_eq_true] at hhas
      have hstale := h.stale_iff.2 ⟨⟨content, hfile⟩, hhas⟩
      exact hnot ⟨name, mem_staleNames_iff.2 ((found_iff hfree).2 hstale), rfl⟩
  · -- where there is no directory there is no file
    rw [staleNames_of_not_isDirectory? hdir]
    exact ⟨h, Agrees.refl t dir,
      fun _ name content hfile => absurd (h.located _ content hfile) hdir⟩

/-- Where only files of the artifacts were before, the directory holds exactly the package after
them. -/
theorem FilesWritten.holds {w : Written} (h : FilesWritten t dir artifacts w)
    (hdir : t.isDirectory? dir = .ok true)
    (hfiles : ∀ name content, t.entryAt (t.target dir ++ [name]) = some (.file content) →
      OrderedMap.has artifacts name = true)
    {paths : List Path} (hpaths : w.outcome = .ok paths) : Holds w.tree dir artifacts := by
  have hwritten := h.written paths hpaths
  refine ⟨h.keeps.isDirectory? hdir, fun below content => ⟨fun hfile => ?_, ?_⟩,
    h.clean.directories⟩
  · obtain ⟨name, source, rfl, -⟩ := h.clean.files below content hfile
    rw [h.keeps.target] at hfile
    by_cases hname : ∃ e ∈ artifacts, e.1 = name
    · obtain ⟨e, he, rfl⟩ := hname
      rw [hwritten e he] at hfile
      cases hfile
      exact ⟨e, he, rfl, rfl⟩
    · -- a file of another name was there before
      rw [h.others _ fun e he heq => ?_] at hfile
      · exact absurd (OrderedMap.has_eq_true_iff.1 (hfiles name content hfile)) hname
      · exact hname ⟨e, he, (name_inj heq).symm⟩
  · rintro ⟨e, he, rfl, rfl⟩
    rw [h.keeps.target]
    exact hwritten e he

/-- What comes of writing a package. -/
structure PackageWritten (t : FileTree) (dir : Path) (artifacts : Artifacts) (w : Written) :
    Prop where
  clean : Clean w.tree dir
  agrees : Agrees t w.tree dir
  isDirectory : CanMake t dir → w.tree.isDirectory? dir = .ok true
  outcome : CanHold t dir artifacts → (∀ b, ¬ Blocks t dir artifacts b) →
    w.outcome = .ok (artifacts.map fun e => dir.entry e.1)
  canHold : ∀ paths, w.outcome = .ok paths →
    CanHold t dir artifacts ∧ ∀ b, ¬ Blocks t dir artifacts b
  holds : ∀ paths, w.outcome = .ok paths → Holds w.tree dir artifacts

/-- A write that is blocked leaves the directory clean. -/
theorem PackageWritten.of_error {e : FileError} {log : Log} (hclean : Clean t' dir)
    (hagrees : Agrees t t' dir) (hdir : CanMake t dir → t'.isDirectory? dir = .ok true)
    (h : CanMake t dir → ∃ b, Blocks t dir artifacts b) :
    PackageWritten t dir artifacts ⟨.error e, t', log⟩ where
  clean := hclean
  agrees := hagrees
  isDirectory := hdir
  outcome hcan hfree := absurd (h hcan.canMake) (not_exists.2 hfree)
  canHold _ hpaths := by cases hpaths
  holds _ hpaths := by cases hpaths

/-- Files come to a package in a directory that is there and has been cleared. -/
theorem PackageWritten.of_files {w : Written} {log : Log} (hwritten : FilesWritten t' dir artifacts w)
    (hagrees : Agrees t t' dir) (hdir : t'.isDirectory? dir = .ok true)
    (hfree : ∀ b, ¬ Blocks t dir artifacts b)
    (hfiles : ∀ name content, t'.entryAt (t'.target dir ++ [name]) = some (.file content) →
      OrderedMap.has artifacts name = true) :
    PackageWritten t dir artifacts ⟨w.outcome, w.tree, log⟩ := by
  have hmade : (t'.makeDirs dir).1 = t' := by rw [makeDirs_of_isDirectory? hdir]
  have hholds := hagrees.canHold artifacts
  refine ⟨hwritten.clean,
    hagrees.trans (Agrees.of_isDirectory? hdir hwritten.keeps hwritten.kept),
    fun _ => hwritten.keeps.isDirectory? hdir, fun hcan _ => ?_, fun paths hpaths => ?_,
    fun paths hpaths => hwritten.holds hdir hfiles hpaths⟩
  · refine hwritten.outcome fun e he => ?_
    rw [← hmade]
    exact (hholds.2 hcan).accepts e he
  · refine ⟨hholds.1 ⟨canMake_of_isDirectory? hdir, fun e he => ?_⟩, hfree⟩
    rw [hmade]
    exact hwritten.accepts paths hpaths e he

/-- **Writing a package** succeeds exactly when the directory can hold it and the search for earlier
modules goes through; then the directory holds the package and nothing else. -/
theorem packageWritten_write (h : Clean t dir) (hpackage : IsPackage artifacts) :
    PackageWritten t dir artifacts (write t dir artifacts) := by
  obtain ⟨hclean, hagrees, hfiles⟩ := cleared_removeAll h artifacts
  have hkeeps := hagrees.keeps
  have hsearch : (staleNames t artifacts dir).2 = .ok () ↔ _ := staleNames_eq_ok_iff
  rw [write]
  dsimp only
  generalize removeAll t dir (staleNames t artifacts dir).1 = t₁ at hclean hagrees hkeeps hfiles ⊢
  cases houtcome : (staleNames t artifacts dir).2 with
  | error e =>
      rw [houtcome] at hsearch
      have hblocks : CanMake t dir → ∃ b, Blocks t dir artifacts b := by
        intro hcan
        by_contra hnone
        cases hsearch.2 ⟨hcan.isDirectory?, not_exists.1 hnone⟩
      exact .of_error hclean hagrees
        (fun hcan => hkeeps.isDirectory? (hblocks hcan).choose_spec.isDirectory) hblocks
  | ok u =>
      obtain ⟨-, hfree⟩ := hsearch.1 houtcome
      dsimp only
      obtain ⟨hextends, hdir⟩ := makeDirs_spec hclean.wellFormed (p := dir)
      have hmake := makeDirs_eq_ok_iff hclean.wellFormed (p := dir)
      have hagrees' := hagrees.trans (Agrees.makeDirs hclean.wellFormed dir)
      have hclean' := hclean.extends hextends
      generalize t₁.makeDirs dir = made at hextends hdir hmake hagrees' hclean' ⊢
      obtain ⟨t₂, outcome⟩ := made
      cases outcome with
      | error e =>
          have hnot : ¬ CanMake t dir := by
            intro hcan
            cases hmake.2 (hagrees.canMake.2 hcan)
          exact .of_error hclean' hagrees' (fun hcan => absurd hcan hnot)
            fun hcan => absurd hcan hnot
      | ok u =>
          have hdir' := hdir rfl
          refine .of_files (filesWritten_writeFiles hclean' hdir' hpackage) hagrees' hdir' hfree
            fun name content hfile => ?_
          rw [hextends.keeps.target, hextends.files] at hfile
          exact hfiles hfree name content hfile

/-! ## The same package once more -/

/-- Writing what is there already changes nothing, and says so. -/
theorem writeFiles_of_holds {rest : Artifacts} (h : Clean t dir) (hholds : Holds t dir artifacts)
    (hrest : ∀ e ∈ rest, e ∈ artifacts) :
    writeFiles t dir rest = ⟨.ok (rest.map fun e => dir.entry e.1), t,
      rest.map fun e => unchanged dir e.1⟩ := by
  induction rest with
  | nil => rfl
  | cons e rest ih =>
      obtain ⟨name, source⟩ := e
      rw [List.forall_mem_cons] at hrest
      have hthere : t.entryAt (t.target dir ++ [name]) = some (.file source.toUTF8) :=
        (hholds.files _ _).2 ⟨(name, source), hrest.1, rfl, rfl⟩
      obtain ⟨n, source', heq, hreaches, hmodule, hsource, hbytes⟩ := h.files _ _ hthere
      cases heq
      cases String.toByteArray_inj.1 hbytes
      have hwritable : Writable t dir name :=
        h.writable_iff.2 ⟨hreaches, by rw [hthere]; nofun⟩
      have hreads : reads source (t.entryAt (t.target dir ++ [name])) = true :=
        reads_eq_true_iff.2 ⟨_, hthere, textOf?_toUTF8 hsource⟩
      obtain ⟨t', hwrite, -, hsame⟩ := writeFile_of_writable hholds.isDirectory
        (ne_dots_of_isModuleFile hmodule) source hwritable
      obtain rfl := hsame hreads
      rw [writeFiles, hwrite]
      dsimp only
      rw [ih hrest.2, reported, if_pos hreads]
      rfl

/-- Of the files of a package none is an earlier module to it. -/
theorem staleNames_of_holds (h : Clean t dir) (hholds : Holds t dir artifacts) :
    (staleNames t artifacts dir).1 = [] := by
  refine List.eq_nil_iff_forall_not_mem.2 fun name hname => ?_
  obtain ⟨⟨content, hfile⟩, hhas⟩ := h.stale_iff.1 (mem_staleNames_iff.1 hname).stale
  obtain ⟨e, he, heq, -⟩ := (hholds.files _ _).1 hfile
  cases heq
  exact OrderedMap.has_eq_false_iff.1 hhas (List.mem_map_of_mem he)

/-- **Writing what a directory holds** removes nothing, changes nothing, and says so of every
file. -/
theorem write_again (h : Clean t dir) (hholds : Holds t dir artifacts)
    (hfree : ∀ b, ¬ Blocks t dir artifacts b) :
    write t dir artifacts = ⟨.ok (artifacts.map fun e => dir.entry e.1), t,
      artifacts.map fun e => unchanged dir e.1⟩ := by
  have hsearch := staleNames_eq_ok_iff.2 ⟨⟨true, hholds.isDirectory⟩, hfree⟩
  rw [write, hsearch, staleNames_of_holds h hholds]
  dsimp only [removeAll, List.foldl_nil, List.map_nil]
  rw [makeDirs_of_isDirectory? hholds.isDirectory]
  dsimp only
  rw [writeFiles_of_holds h hholds fun _ => id]
  rfl

/-- Nothing changes either when the search breaks off. -/
theorem tree_write_again (h : Clean t dir) (hholds : Holds t dir artifacts) :
    (write t dir artifacts).tree = t := by
  by_cases hfree : ∀ b, ¬ Blocks t dir artifacts b
  · rw [write_again h hholds hfree]
  · have hsearch : (staleNames t artifacts dir).2 ≠ .ok () :=
      fun h => hfree (staleNames_eq_ok_iff.1 h).2
    rw [write, staleNames_of_holds h hholds]
    dsimp only [removeAll, List.foldl_nil]
    cases houtcome : (staleNames t artifacts dir).2 with
    | error e => rfl
    | ok u => exact absurd houtcome hsearch

/-! ## Any number of packages -/

/-- The tree after models were written into a directory one after the other, whatever came of each
write. -/
def writeAll (t : FileTree) (dir : Path) (models : List Model) : FileTree :=
  models.foldl (fun t m => (write t dir (Package.artifacts m)).tree) t

/-- Every run of writes keeps what a single one keeps. -/
theorem clean_writeAll {models : List Model} (h : Clean t dir)
    (hpackages : ∀ m ∈ models, IsPackage (Package.artifacts m)) :
    Clean (writeAll t dir models) dir ∧ Agrees t (writeAll t dir models) dir := by
  induction models generalizing t with
  | nil => exact ⟨h, Agrees.refl t dir⟩
  | cons m models ih =>
      rw [List.forall_mem_cons] at hpackages
      have hwritten := packageWritten_write h hpackages.1
      obtain ⟨hclean, hagrees⟩ := ih hwritten.clean hpackages.2
      exact ⟨hclean, hwritten.agrees.trans hagrees⟩

/-- The first write makes the directory, and it stays. -/
theorem isDirectory?_writeAll {models : List Model} (h : Clean t dir) (hcan : CanMake t dir)
    (hpackages : ∀ m ∈ models, IsPackage (Package.artifacts m)) (hne : models ≠ []) :
    (writeAll t dir models).isDirectory? dir = .ok true := by
  cases models with
  | nil => exact absurd rfl hne
  | cons m models =>
      rw [List.forall_mem_cons] at hpackages
      have hwritten := packageWritten_write h hpackages.1
      obtain ⟨-, hagrees⟩ := clean_writeAll hwritten.clean hpackages.2
      exact hagrees.keeps.isDirectory? (hwritten.isDirectory hcan)

/-- The first of several writes finds nothing to search, and the others do what the directory allows
once it is made. -/
theorem not_blocks_writeAll_iff {models : List Model} (hwf : t.WellFormed)
    (habsent : t.entryAt (t.target dir) = none) (hcan : CanMake t dir)
    (hpackages : ∀ m ∈ models, IsPackage (Package.artifacts m)) :
    (∀ b, ¬ Blocks (writeAll t dir models) dir artifacts b) ↔
      models = [] ∨ Passable t dir artifacts := by
  have hclean := clean_of_absent hwf habsent
  by_cases hempty : models = []
  · subst hempty
    refine iff_of_true (fun b hb => ?_) (.inl rfl)
    have hentry := (isDirectory?_eq_true.1 hb.isDirectory).2
    rw [writeAll, List.foldl_nil, habsent] at hentry
    cases hentry
  · obtain ⟨hclean', hagrees⟩ := clean_writeAll hclean hpackages
    rw [or_iff_right hempty, hagrees.passable hclean hclean'
      (isDirectory?_writeAll hclean hcan hpackages hempty)]

/-- **What a directory holds depends on the last package only.**  A directory that was not there at
first can hold a package or not, whatever was written before: if it can, the write succeeds, the
directory has the files of the package and no others, and the same write leaves it as it is.  Every
write but the first asks besides that the directory is passable, which it is if its path does not
lead back. -/
theorem write_history_independent (hwf : t.WellFormed)
    (habsent : t.entryAt (t.target dir) = none) {models : List Model}
    (hmodels : ∀ m ∈ models, m.IsCompiled) {m : Model} (hm : m.IsCompiled) :
    let w := write (writeAll t dir models) dir (Package.artifacts m)
    let again := write w.tree dir (Package.artifacts m)
    ((∃ paths, w.outcome = .ok paths) ↔ CanHold t dir (Package.artifacts m) ∧
        (models = [] ∨ Passable t dir (Package.artifacts m))) ∧
      (∀ paths, w.outcome = .ok paths → Holds w.tree dir (Package.artifacts m) ∧
        again.tree = w.tree ∧
        (Passable t dir (Package.artifacts m) → again = ⟨w.outcome, w.tree,
          (Package.artifacts m).map fun e => unchanged dir e.1⟩)) ∧
      (".." ∉ dir.names → Passable t dir (Package.artifacts m)) := by
  intro w again
  have hpackage := isPackage_artifacts hm.wellNamed
  have hpackages : ∀ m ∈ models, IsPackage (Package.artifacts m) :=
    fun m hm => isPackage_artifacts (hmodels m hm).wellNamed
  have hclean := clean_of_absent hwf habsent
  obtain ⟨hclean', hagrees⟩ := clean_writeAll hclean hpackages
  have hwritten : PackageWritten _ dir _ w := packageWritten_write hclean' hpackage
  have hcan := hagrees.canHold (Package.artifacts m)
  have hfree_iff (h : CanMake t dir) :
      (∀ b, ¬ Blocks (writeAll t dir models) dir (Package.artifacts m) b) ↔
        models = [] ∨ Passable t dir (Package.artifacts m) :=
    not_blocks_writeAll_iff hwf habsent h hpackages
  refine ⟨⟨fun ⟨paths, hpaths⟩ => ?_, fun ⟨hhold, hpass⟩ => ?_⟩, fun paths hpaths => ?_,
    hclean.passable⟩
  · obtain ⟨hhold, hfree⟩ := hwritten.canHold paths hpaths
    have hhold' := hcan.1 hhold
    exact ⟨hhold', (hfree_iff hhold'.canMake).1 hfree⟩
  · exact ⟨_, hwritten.outcome (hcan.2 hhold) ((hfree_iff hhold.canMake).2 hpass)⟩
  · obtain ⟨hhold, hfree⟩ := hwritten.canHold paths hpaths
    have hholds := hwritten.holds paths hpaths
    refine ⟨hholds, tree_write_again hwritten.clean hholds, fun hpass => ?_⟩
    have hfree' : ∀ b, ¬ Blocks w.tree dir (Package.artifacts m) b :=
      ((hagrees.trans hwritten.agrees).passable hclean hwritten.clean hholds.isDirectory).2 hpass
    have hagain : again = _ := write_again hwritten.clean hholds hfree'
    rw [hagain, hwritten.outcome hhold hfree]

theorem wellFormed_twoLocales : twoLocales.WellFormed :=
  wellFormed_of_entries (by decide) rfl

/-- The six files of a package with one locale besides the default one. -/
theorem keys_twoLocales :
    ∃ c, (Compilation.compile twoLocales resSettings).1 = .ok c ∧
      (Package.artifacts c.model).keys = ["formatted_string.py", "strings_default.py",
        "strings_de.py", "app_locale.py", "localized_strings.py", "__init__.py"] := by
  apply exists_ok_of_toOption_map
  rw [Compilation.compile, Discovery.discover, candidates_twoLocales]
  decide +kernel

/-- A directory that is in no tree here. -/
def genDir : Path := ⟨.relative, ["gen"]⟩

theorem clean_twoLocales : Clean twoLocales genDir :=
  clean_of_absent wellFormed_twoLocales (by decide)

/-- There is room for them. -/
theorem canHold_twoLocales {m : Model} (h : (Package.artifacts m).keys = ["formatted_string.py",
      "strings_default.py", "strings_de.py", "app_locale.py", "localized_strings.py",
      "__init__.py"]) : CanHold twoLocales genDir (Package.artifacts m) := by
  have hcan : CanMake twoLocales genDir := by
    have hmake : twoLocales.makeDir genDir = .ok (twoLocales.put ["gen"] .directory) := rfl
    refine (makeDirs_eq_ok_iff wellFormed_twoLocales).1 ?_
    rw [makeDirs, hmake]
  have hreaches : ∀ name ∈ (Package.artifacts m).keys, Reaches genDir name := by
    rw [h]
    decide
  exact (clean_twoLocales.canHold_iff (by decide)).2
    ⟨hcan, fun e he => hreaches e.1 (List.mem_map_of_mem he)⟩

theorem write_history_independent_twoLocales :
    ∃ c, (Compilation.compile twoLocales resSettings).1 = .ok c ∧
      twoLocales.WellFormed ∧ twoLocales.entryAt (twoLocales.target genDir) = none ∧
      let w := write (writeAll twoLocales genDir [c.model]) genDir (Package.artifacts c.model)
      (∃ paths, w.outcome = .ok paths) ∧ Holds w.tree genDir (Package.artifacts c.model) ∧
        write w.tree genDir (Package.artifacts c.model) = ⟨w.outcome, w.tree,
          (Package.artifacts c.model).map fun e => unchanged genDir e.1⟩ := by
  obtain ⟨c, hc, hkeys⟩ := keys_twoLocales
  have habsent : twoLocales.entryAt (twoLocales.target genDir) = none := by decide
  have hcompiled : c.model.IsCompiled := ⟨twoLocales, resSettings, c, hc, rfl⟩
  have hmodels : ∀ m ∈ [c.model], m.IsCompiled := by simpa using hcompiled
  obtain ⟨hok, hholds, hpass⟩ :=
    write_history_independent wellFormed_twoLocales habsent hmodels hcompiled
  have hpassable := hpass (by decide)
  obtain ⟨paths, hpaths⟩ := hok.2 ⟨canHold_twoLocales hkeys, .inr hpassable⟩
  obtain ⟨hholds, -, hagain⟩ := hholds paths hpaths
  exact ⟨c, hc, wellFormed_twoLocales, habsent, ⟨paths, hpaths⟩, hholds, hagain hpassable⟩

/-! ## Names that are too long -/

/-- **A package that is held** has no locale whose name is longer than 244 characters. -/
theorem Clean.length_name_le {m : Model} {l : Locale} (h : Clean t dir)
    (hholds : Holds t dir (Package.artifacts m)) (hm : m.WellNamed) (hl : l ∈ m.locales) :
    l.name.toList.length ≤ 244 := by
  obtain ⟨e, he, rfl⟩ := List.mem_map.1 hl
  have hname : SafeName e.1.name := by
    obtain ⟨others, hlocales, hnamed⟩ := hm
    have hall : ∀ l ∈ m.default :: others, SafeName l.name :=
      List.forall_mem_cons.2 ⟨hnamed.default_name, hnamed.others_name⟩
    exact hall e.1 (hlocales ▸ hl)
  have htables : (tablesFile e.1, (Tables.ofCatalog e.1 e.2).source) ∈ Package.artifacts m := by
    rw [artifacts_eq hm]
    exact List.mem_append_left _ (List.mem_cons_of_mem _ (List.mem_map_of_mem he))
  have hthere := (hholds.files _ _).2 ⟨_, htables, rfl, rfl⟩
  obtain ⟨name, source, heq, hreaches, -⟩ := h.files _ _ hthere
  cases heq
  have hbytes : (tablesFile e.1).utf8ByteSize ≤ 255 := hreaches.length_le
  have hlength := length_le_utf8ByteSize (tablesFile e.1)
  rw [length_tablesFile hname] at hlength
  omega

/-- A tree with texts in the default locale only. -/
def oneLocale : FileTree where
  workingDir := []
  entries := [
    (["res"], .directory),
    (["res", "values"], .directory),
    (["res", "values", "strings.xml"], .file "<resources/>".toUTF8)]

/-- The catalog of the default locale. -/
def oneCatalog : Path := ⟨.relative, ["res", "values", "strings.xml"]⟩

/-- Settings that name the default locale. -/
def namedSettings (name : String) : Settings := {resSettings with defaultLocaleName := name}

/-- Whatever the name of the default locale is, there is a model of that locale alone. -/
theorem compile_oneLocale {name : String} {l : Locale} (h : Locale.default? name = some l) :
    ∃ c, (Compilation.compile oneLocale (namedSettings name)).1 = .ok c ∧
      c.model.default = l := by
  have hcandidates : Discovery.candidates oneLocale resSettings.resourcesDir = ([], .ok ()) := by
    decide +kernel
  have hpath : (resSettings.resourcesDir.entry Discovery.defaultDirectory).child
      resSettings.catalogFile = oneCatalog := by
    decide +kernel
  have hexists : oneLocale.exists? oneCatalog = .ok true := by decide +kernel
  obtain ⟨log, hload⟩ : ∃ log, Catalog.load oneLocale oneCatalog = (.ok [], log) := by
    have hcatalog : (Catalog.load oneLocale oneCatalog).1 = .ok [] := by decide +kernel
    exact ⟨_, Prod.ext hcatalog rfl⟩
  refine ⟨⟨l, [(l, oneCatalog, [])], []⟩, ?_, rfl⟩
  rw [Compilation.compile, Discovery.discover, namedSettings]
  dsimp only
  rw [h, hcandidates, hpath]
  dsimp only [Discovery.verdicts, List.filterMap_nil, Discovery.Discovered.all]
  rw [Compilation.survey, hexists]
  dsimp only [Compilation.survey, Except.map]
  rw [Compilation.loadAll, hload]
  rfl

/-- The name of a default locale can be of any length. -/
theorem exists_default_of_length (n : Nat) :
    ∃ l, Locale.default? (String.ofList (List.replicate (n + 1) 'a')) = some l ∧
      l.name.toList.length = n + 1 := by
  have hsafe : safeName (String.ofList (List.replicate (n + 1) 'a')) =
      String.ofList ('A' :: List.replicate n 'a') := by
    have hstrip : stripUnderscores (List.replicate (n + 1) 'a') = List.replicate (n + 1) 'a' := by
      simp [stripUnderscores]
    have hsafe : safeChar 'a' = 'a' := by decide
    rw [safeName, String.toList_ofList, List.map_replicate, hsafe, hstrip]
    rfl
  have hempty : (String.ofList ('A' :: List.replicate n 'a')).isEmpty = false := by simp
  rw [Locale.default?, hsafe]
  dsimp only
  rw [hempty, if_neg Bool.false_ne_true]
  refine ⟨_, rfl, ?_⟩
  rw [String.toList_ofList, List.length_cons, List.length_replicate]

/-- A name of 245 characters is accepted when a package is compiled, and then the package cannot be
written: the tables of the locale would be in a file whose name is too long. -/
theorem not_holds_long_name :
    ∃ c, (Compilation.compile oneLocale
        (namedSettings (String.ofList (List.replicate 245 'a')))).1 = .ok c ∧
      oneLocale.WellFormed ∧ oneLocale.entryAt (oneLocale.target genDir) = none ∧
      ¬ Holds (write oneLocale genDir (Package.artifacts c.model)).tree genDir
        (Package.artifacts c.model) := by
  obtain ⟨l, hdefault, hlength⟩ := exists_default_of_length 244
  obtain ⟨c, hc, hl⟩ := compile_oneLocale hdefault
  have hwf : oneLocale.WellFormed := wellFormed_of_entries (by decide) rfl
  have habsent : oneLocale.entryAt (oneLocale.target genDir) = none := by decide
  have hm : c.model.WellNamed := (Compilation.compile_spec hc).wellNamed
  have hwritten := packageWritten_write (clean_of_absent hwf habsent) (isPackage_artifacts hm)
  refine ⟨c, hc, hwf, habsent, fun hholds => ?_⟩
  have hle := hwritten.clean.length_name_le hholds hm (default_mem_locales hm)
  rw [hl, hlength] at hle
  omega

end StringCatalog.Package
