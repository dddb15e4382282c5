import StringCatalog.Proofs.Overwriting

/-!
# StringCatalog.Proofs.Writing

Writing a package into a directory that holds nothing but packages of earlier
writes.

* `Clean` — all files below the directory are modules of earlier writes, which
  every step keeps, whether it succeeds or not;
* `Clean.removes`, `Clean.stale_iff` — what is removed;
* `Clean.blocks_of_keeps` — what breaks the search off is a directory, and stays;
* `filesWritten_writeFiles` — all modules.
-/

namespace StringCatalog.Package

open FileTree

variable {t t' : FileTree} {dir : Path} {artifacts : Artifacts}

/-! ## The invariant -/

/-- Every file below a directory is a module that lies directly in it.  Directories lie in it only
where the path itself goes through them. -/
structure Clean (t : FileTree) (dir : Path) : Prop where
  wellFormed : t.WellFormed
  located : ∀ below content, t.entryAt (t.target dir ++ below) = some (.file content) →
    t.isDirectory? dir = .ok true
  files : ∀ below content, t.entryAt (t.target dir ++ below) = some (.file content) →
    ∃ name source, below = [name] ∧ Reaches dir name ∧ isModuleFile name = true ∧
      IsModuleSource source ∧ content = source.toUTF8
  directories : ".." ∉ dir.names → ∀ below, below ≠ [] →
    t.entryAt (t.target dir ++ below) ≠ some .directory

/-- A directory that is not there is clean. -/
theorem clean_of_absent (h : t.WellFormed) (habsent : t.entryAt (t.target dir) = none) :
    Clean t dir := by
  have hnone : ∀ below, t.entryAt (t.target dir ++ below) = none := by
    intro below
    by_cases hbelow : below = []
    · rw [hbelow, List.append_nil, habsent]
    · exact h.none_below (by rw [habsent]; nofun) hbelow
  refine ⟨h, fun below content hfile => ?_, fun below content hfile => ?_, fun _ below _ hdir => ?_⟩
  · rw [hnone] at hfile
    cases hfile
  · rw [hnone] at hfile
    cases hfile
  · rw [hnone] at hdir
    cases hdir

theorem foldl_follow {names : List String} (h : ".." ∉ names) (loc : Location) :
    names.foldl follow loc = loc ++ names := by
  induction names generalizing loc with
  | nil => rw [List.append_nil]; rfl
  | cons name names ih =>
      rw [List.mem_cons, not_or] at h
      rw [List.foldl_cons, ih h.2, follow, if_neg (Ne.symm h.1), List.append_assoc]
      rfl

/-- Making directories on the way keeps it clean. -/
theorem Clean.extends (h : Clean t dir) (hextends : Extends t t' dir) : Clean t' dir := by
  have htarget := hextends.keeps.target dir
  refine ⟨hextends.wellFormed, ?_, ?_, ?_⟩
  · intro below content hfile
    rw [htarget, hextends.files] at hfile
    exact hextends.keeps.isDirectory? (h.located below content hfile)
  · intro below content hfile
    rw [htarget, hextends.files] at hfile
    exact h.files below content hfile
  · intro hdots below hbelow hdir
    rw [htarget] at hdir
    rcases hextends.directories _ hdir with hdir | ⟨names, hnames, heq⟩
    · exact h.directories hdots below hbelow hdir
    · -- without `..` a path only goes through what lies above its end
      have hdots' : ".." ∉ names := fun hmem => hdots (hnames.subset hmem)
      rw [FileTree.target, foldl_follow hdots, foldl_follow hdots', List.append_assoc,
        List.append_cancel_left_eq] at heq
      have hlength := hnames.length_le
      rw [← heq, List.length_append] at hlength
      exact hbelow (List.length_eq_zero_iff.1 (by omega))

/-- Changes of files keep a directory clean if they put modules only. -/
theorem Clean.of_files (h : Clean t dir) (hdir : t.isDirectory? dir = .ok true)
    (hwf : t'.WellFormed) (hkeeps : Keeps t t') (hkept : Keeps t' t)
    (hfiles : ∀ below content, t'.entryAt (t.target dir ++ below) = some (.file content) →
      t.entryAt (t.target dir ++ below) = some (.file content) ∨ ∃ name source, below = [name] ∧
        Reaches dir name ∧ isModuleFile name = true ∧ IsModuleSource source ∧
        content = source.toUTF8) : Clean t' dir := by
  have htarget := hkeeps.target dir
  refine ⟨hwf, fun _ _ _ => hkeeps.isDirectory? hdir, fun below content hfile => ?_,
    fun hdots below hbelow hentry => ?_⟩
  · rw [htarget] at hfile
    rcases hfiles below content hfile with hold | hnew
    · exact h.files below content hold
    · exact hnew
  · rw [htarget] at hentry
    exact h.directories hdots below hbelow (hkept.directories _ hentry)

/-! ## Earlier modules -/

/-- A directory stays clean when files are removed. -/
theorem Clean.removes {names : List String} (h : Clean t dir) (hdir : t.isDirectory? dir = .ok true)
    (hremoves : Removes t t' dir names) : Clean t' dir := by
  refine h.of_files hdir hremoves.wellFormed hremoves.keeps hremoves.kept
    fun below content hfile => ?_
  rw [hremoves.entryAt] at hfile
  split at hfile
  · cases hfile
  · exact .inl hfile

/-- The earlier modules of a directory are the files whose names no artifact has. -/
theorem Clean.stale_iff (h : Clean t dir) {name : String} :
    Stale t dir artifacts name ↔
      (∃ content, t.entryAt (t.target dir ++ [name]) = some (.file content)) ∧
        OrderedMap.has artifacts name = false := by
  constructor
  · intro hstale
    obtain ⟨content, hfile, -⟩ := hstale.compiled
    exact ⟨⟨content, hfile⟩, hstale.not_artifact⟩
  · rintro ⟨⟨content, hfile⟩, hnot⟩
    obtain ⟨n, source, heq, hreaches, hmodule, hsource, rfl⟩ := h.files [name] content hfile
    cases heq
    exact ⟨h.located _ _ hfile, hmodule, hnot, hreaches, _, hfile, isCompiled_toUTF8 hsource⟩

/-- Files of earlier writes do not break the search off, so what does is a directory, and does so as
long as it is there. -/
theorem Clean.blocks_of_keeps {b : String} (h : Clean t dir) (hkeeps : Keeps t t')
    (hb : Blocks t dir artifacts b) : Blocks t' dir artifacts b := by
  obtain ⟨hmodule, hnot, hthere, hnull, hlong⟩ := (blocks_iff hb.isDirectory).1 hb
  refine (blocks_iff (hkeeps.isDirectory? hb.isDirectory)).2 ⟨hmodule, hnot, ?_, hnull, hlong⟩
  cases hentry : t.entryAt (t.target dir ++ [b]) with
  | none => exact absurd hentry hthere
  | some e =>
      cases e with
      | file content =>
          obtain ⟨name, source, heq, hreaches, -⟩ := h.files [b] content hentry
          cases heq
          exact absurd hreaches hlong
      | directory =>
          rw [hkeeps.target, hkeeps.directories _ hentry]
          nofun

/-! ## All files -/

variable {name : String}

/-- A module that is there reads as itself, so nothing but a directory is in the way of another. -/
theorem Clean.writable_iff (h : Clean t dir) : Writable t dir name ↔ Accepts t dir name := by
  refine ⟨fun hwritable => hwritable.accepts, fun haccepts => ⟨haccepts, fun content hfile => ?_⟩⟩
  obtain ⟨n, source, -, -, -, hsource, rfl⟩ := h.files [name] content hfile
  exact ⟨source, textOf?_toUTF8 hsource⟩

/-- Comparing texts of modules compares modules. -/
theorem Clean.settled_eq (h : Clean t dir) (source : String) :
    settled source (t.entryAt (t.target dir ++ [name])) = source.toUTF8 := by
  cases hreads : reads source (t.entryAt (t.target dir ++ [name])) with
  | false => exact settled_of_not_reads hreads
  | true =>
      obtain ⟨content, hfile, htext⟩ := reads_eq_true_iff.1 hreads
      obtain ⟨n, there, -, -, -, hthere, rfl⟩ := h.files [name] content hfile
      rw [textOf?_toUTF8 hthere] at htext
      rw [hfile, settled_of_reads (by rw [textOf?_toUTF8 hthere, htext]), Option.some.inj htext]

/-- What comes of writing modules into a directory that is there. -/
structure FilesWritten (t : FileTree) (dir : Path) (artifacts : Artifacts) (w : Written) :
    Prop where
  clean : Clean w.tree dir
  keeps : Keeps t w.tree
  kept : Keeps w.tree t
  outcome : (∀ e ∈ artifacts, Accepts t dir e.1) →
    w.outcome = .ok (artifacts.map fun e => dir.entry e.1)
  accepts : ∀ paths, w.outcome = .ok paths → ∀ e ∈ artifacts, Accepts t dir e.1
  written : ∀ paths, w.outcome = .ok paths → ∀ e ∈ artifacts,
    w.tree.entryAt (t.target dir ++ [e.1]) = some (.file e.2.toUTF8)
  others : ∀ x, (∀ e ∈ artifacts, x ≠ t.target dir ++ [e.1]) → w.tree.entryAt x = t.entryAt x

/-- Settling the files of a package keeps it clean. -/
theorem Clean.settles {done : Artifacts} (h : Clean t dir) (hdir : t.isDirectory? dir = .ok true)
    (hpackage : IsPackage artifacts) (hdone : ∀ e ∈ done, e ∈ artifacts ∧ Writable t dir e.1)
    (hsettles : Settles t t' dir done) : Clean t' dir := by
  refine h.of_files hdir (hsettles.wellFormed h.wellFormed) hsettles.keeps hsettles.kept
    fun below content hfile => ?_
  by_cases hwritten : ∃ e ∈ done, below = [e.1]
  · obtain ⟨e, he, rfl⟩ := hwritten
    rw [hsettles.written e he, h.settled_eq, Option.some.injEq, FileEntry.file.injEq] at hfile
    obtain ⟨hartifact, hwritable⟩ := hdone e he
    exact .inr ⟨e.1, e.2, rfl, hwritable.accepts.1, hpackage.isModuleFile e hartifact,
      hpackage.isModuleSource e hartifact, hfile.symm⟩
  · rw [hsettles.others] at hfile
    · exact .inl hfile
    · exact fun e he heq => hwritten ⟨e, he, List.append_cancel_left heq⟩

/-- **Writing modules one after the other** succeeds when every name is accepted, and then all of
them are there. -/
theorem filesWritten_writeFiles (h : Clean t dir) (hdir : t.isDirectory? dir = .ok true)
    (hpackage : IsPackage artifacts) :
    FilesWritten t dir artifacts (writeFiles t dir artifacts) := by
  have hiff : ∀ e : String × String, Writable t dir e.1 ↔ Accepts t dir e.1 := fun _ => h.writable_iff
  cases filesEnd_writeFiles hdir hpackage.isModuleFile hpackage.nodup with
  | completed hall houtcome hsettles _ =>
      refine ⟨h.settles hdir hpackage (fun e he => ⟨he, hall e he⟩) hsettles, hsettles.keeps,
        hsettles.kept, fun _ => houtcome, fun _ _ e he => (hall e he).accepts,
        fun _ _ e he => ?_, hsettles.others⟩
      rw [hsettles.written e he, h.settled_eq]
  | @stopped done rest a heq hdone ha houtcome hsettles _ =>
      have hmem : ∀ e ∈ done, e ∈ artifacts := fun e he => heq ▸ List.mem_append_left _ he
      obtain ⟨e, he⟩ := houtcome
      refine ⟨h.settles hdir hpackage (fun e he => ⟨hmem e he, hdone e he⟩) hsettles,
        hsettles.keeps, hsettles.kept, fun hall => ?_, fun paths hpaths => ?_,
        fun paths hpaths => ?_, fun x hx => hsettles.others x fun e he => hx e (hmem e he)⟩
      · exact absurd ((hiff a).2 (hall a (by simp [heq]))) ha
      · rw [he] at hpaths
        cases hpaths
      · rw [he] at hpaths
        cases hpaths

end StringCatalog.Package
