import StringCatalog.Package.Write
import StringCatalog.Proofs.Listings

/-!
# StringCatalog.Proofs.StaleModules

The search for earlier modules in a directory, and what their removal does.  The
search goes through the names in order and breaks off at the first one that the
file system refuses to be asked about, so that only what comes before it is
found.

* `Stale`, `Blocks` — earlier modules, and entries at which the search breaks off;
* `mem_staleNames_iff`, `staleNames_eq_ok_iff` — what is found (`Found`), and
  when the search goes through;
* `removes_removeAll`, `removes_staleNames` — what the removal does.
-/

namespace StringCatalog.Package

open FileTree

variable {t t' : FileTree} {dir : Path} {artifacts : Artifacts} {name : String}

theorem ne_dots_of_isModuleFile (h : isModuleFile name = true) : name ≠ ".." := by
  rintro rfl
  exact absurd h (by decide)

/-! ## One entry -/

/-- A compiled module in a directory whose name no artifact has. -/
structure Stale (t : FileTree) (dir : Path) (artifacts : Artifacts) (name : String) : Prop where
  isDirectory : t.isDirectory? dir = .ok true
  isModuleFile : isModuleFile name = true
  not_artifact : OrderedMap.has artifacts name = false
  reaches : Reaches dir name
  compiled : ∃ content, t.entryAt (t.target dir ++ [name]) = some (.file content) ∧
    isCompiled content = true

/-- An entry of a directory at which the search for earlier modules breaks off: it has the name of a
module, though no artifact's, and the file system refuses to say whether it is a file. -/
structure Blocks (t : FileTree) (dir : Path) (artifacts : Artifacts) (name : String) : Prop where
  isDirectory : t.isDirectory? dir = .ok true
  isModuleFile : isModuleFile name = true
  not_artifact : OrderedMap.has artifacts name = false
  there : t.entryAt (t.target dir ++ [name]) ≠ none
  refused : t.isFile? (dir.entry name) = .error .nameTooLong

/-- The search breaks off where a path becomes too long. -/
theorem blocks_iff (hdir : t.isDirectory? dir = .ok true) :
    Blocks t dir artifacts name ↔ isModuleFile name = true ∧
      OrderedMap.has artifacts name = false ∧ t.entryAt (t.target dir ++ [name]) ≠ none ∧
      '\x00' ∉ (dir.entry name).text.toList ∧ ¬ Reaches dir name := by
  constructor
  · rintro ⟨-, hmodule, hnot, hthere, hrefused⟩
    exact ⟨hmodule, hnot, hthere,
      (test_entry_eq_error_iff hdir (ne_dots_of_isModuleFile hmodule)).1 hrefused⟩
  · rintro ⟨hmodule, hnot, hthere, hrefused⟩
    exact ⟨hdir, hmodule, hnot, hthere,
      (test_entry_eq_error_iff hdir (ne_dots_of_isModuleFile hmodule)).2 hrefused⟩

/-- A stale module does not block the search for others. -/
theorem Stale.not_blocks (h : Stale t dir artifacts name) : ¬ Blocks t dir artifacts name :=
  fun hblocks => ((blocks_iff h.isDirectory).1 hblocks).2.2.2.2 h.reaches

/-- The test finds the stale modules of a directory. -/
theorem isStale_eq_true_iff (hdir : t.isDirectory? dir = .ok true) :
    isStale t artifacts dir name = .ok true ↔ Stale t dir artifacts name := by
  constructor
  · intro h
    rw [isStale] at h
    split at h
    · cases h
    · next hname =>
      rw [Bool.or_eq_true, not_or, Bool.not_eq_true', Bool.not_eq_false, Bool.not_eq_true] at hname
      split at h
      · cases h
      · cases h
      · split at h
        · cases h
        · next content hread =>
          obtain ⟨loc, hlocate, hfile⟩ := read_eq_ok.1 hread
          obtain ⟨hreaches, rfl⟩ :=
            (locate_entry hdir (ne_dots_of_isModuleFile hname.1)).1 hlocate
          exact ⟨hdir, hname.1, hname.2, hreaches, content, hfile, Except.ok.inj h⟩
  · rintro ⟨-, hmodule, hnot, hreaches, content, hfile, hcompiled⟩
    have hlocate := (locate_entry hdir (ne_dots_of_isModuleFile hmodule)).2 ⟨hreaches, rfl⟩
    have hread := read_eq_ok.2 ⟨_, hlocate, hfile⟩
    rw [isStale, hmodule, hnot, isFile?_eq_true.2 ⟨content, hread⟩, hread]
    simp [hcompiled]

/-- The test is refused exactly for what blocks the search. -/
theorem isStale_eq_error_iff (hdir : t.isDirectory? dir = .ok true)
    (hthere : t.entryAt (t.target dir ++ [name]) ≠ none) :
    (∃ e, isStale t artifacts dir name = .error e) ↔ Blocks t dir artifacts name := by
  constructor
  · rintro ⟨e, h⟩
    rw [isStale] at h
    split at h
    · cases h
    · next hname =>
      rw [Bool.or_eq_true, not_or, Bool.not_eq_true', Bool.not_eq_false, Bool.not_eq_true] at hname
      split at h
      · next e' hfile =>
        obtain rfl := eq_nameTooLong_of_test hfile
        exact ⟨hdir, hname.1, hname.2, hthere, hfile⟩
      · cases h
      · next hfile =>
        -- what is a file can be read
        obtain ⟨content, hread⟩ := isFile?_eq_true.1 hfile
        rw [hread] at h
        cases h
  · rintro ⟨-, hmodule, hnot, -, hrefused⟩
    exact ⟨.nameTooLong, by rw [isStale, hmodule, hnot, hrefused]; rfl⟩

/-- Where names and paths are short enough nothing breaks the search off. -/
theorem not_blocks_of_entries (h : ∀ e ∈ t.entries, Reaches dir (e.1.getLastD "")) (b : String) :
    ¬ Blocks t dir artifacts b := by
  intro hb
  obtain ⟨-, -, hthere, -, hlong⟩ := (blocks_iff hb.isDirectory).1 hb
  obtain ⟨e, he, heq⟩ := entryAt_ne_none_iff.1 hthere
  have hlast : e.1.getLastD "" = b := by simp [heq]
  have hreaches := h e he
  rw [hlast] at hreaches
  exact hlong hreaches

/-! ## The search -/

/-- Among names in order those are found that are to be removed and come before every name that is
refused. -/
theorem mem_staleAmong_iff {names : List String} (hnames : names.Pairwise (· ≤ ·)) :
    name ∈ (staleAmong t artifacts dir names).1 ↔
      name ∈ names ∧ isStale t artifacts dir name = .ok true ∧
        ∀ b ∈ names, (∃ e, isStale t artifacts dir b = .error e) → name < b := by
  induction names with
  | nil => simp [staleAmong]
  | cons n names ih =>
      rw [List.pairwise_cons] at hnames
      rw [staleAmong]
      cases hn : isStale t artifacts dir n with
      | error e =>
          -- nothing comes before the first name
          refine iff_of_false List.not_mem_nil ?_
          rintro ⟨hmem, hstale, hbefore⟩
          have hlt : name < n := hbefore n List.mem_cons_self ⟨e, hn⟩
          rcases List.mem_cons.1 hmem with rfl | hmem
          · rw [hn] at hstale
            cases hstale
          · exact String.not_le.2 hlt (hnames.1 name hmem)
      | ok stale =>
          have hcons : name ∈ (if stale then n :: (staleAmong t artifacts dir names).1
              else (staleAmong t artifacts dir names).1) ↔
              name = n ∧ stale = true ∨ name ∈ (staleAmong t artifacts dir names).1 := by
            cases stale <;> simp
          dsimp only
          rw [hcons, ih hnames.2]
          constructor
          · rintro (⟨rfl, rfl⟩ | ⟨hmem, hstale, hbefore⟩)
            · refine ⟨List.mem_cons_self, hn, fun b hb ⟨e, he⟩ => String.not_le.1 fun hle => ?_⟩
              have hb' : b = name := (List.mem_cons.1 hb).elim id
                fun hb => String.le_antisymm hle (hnames.1 b hb)
              rw [hb', hn] at he
              cases he
            · refine ⟨List.mem_cons_of_mem n hmem, hstale, List.forall_mem_cons.2 ⟨?_, hbefore⟩⟩
              rintro ⟨e, he⟩
              rw [hn] at he
              cases he
          · rintro ⟨hmem, hstale, hbefore⟩
            rcases List.mem_cons.1 hmem with rfl | hmem
            · exact .inl ⟨rfl, Except.ok.inj (hn.symm.trans hstale)⟩
            · exact .inr ⟨hmem, hstale, fun b hb => hbefore b (List.mem_cons_of_mem n hb)⟩

/-- What is found is among the names looked at, in their order. -/
theorem staleAmong_sublist (names : List String) :
    (staleAmong t artifacts dir names).1.Sublist names := by
  induction names with
  | nil => exact .slnil
  | cons n names ih =>
      rw [staleAmong]
      split
      · exact List.nil_sublist _
      · next stale _ =>
        cases stale with
        | true => exact ih.cons_cons n
        | false => exact ih.cons n

/-- The search among names goes through when none of them is refused. -/
theorem staleAmong_eq_ok_iff {names : List String} :
    (staleAmong t artifacts dir names).2 = .ok () ↔
      ∀ b ∈ names, ¬ ∃ e, isStale t artifacts dir b = .error e := by
  induction names with
  | nil => simp [staleAmong]
  | cons n names ih =>
      rw [staleAmong, List.forall_mem_cons]
      cases hn : isStale t artifacts dir n with
      | error e => exact iff_of_false nofun fun h => h.1 ⟨e, rfl⟩
      | ok stale => exact ih.trans (and_iff_right nofun).symm

/-- An earlier module that the search finds: it comes before every entry at which the search would
break off. -/
structure Found (t : FileTree) (dir : Path) (artifacts : Artifacts) (name : String) : Prop where
  stale : Stale t dir artifacts name
  before : ∀ b, Blocks t dir artifacts b → name < b

/-- Where nothing breaks the search off all earlier modules are found. -/
theorem found_iff (h : ∀ b, ¬ Blocks t dir artifacts b) :
    Found t dir artifacts name ↔ Stale t dir artifacts name :=
  ⟨Found.stale, fun hstale => ⟨hstale, fun b hb => absurd hb (h b)⟩⟩

/-- In a directory the names looked at are its own. -/
theorem staleNames_of_isDirectory? (hdir : t.isDirectory? dir = .ok true) :
    staleNames t artifacts dir = staleAmong t artifacts dir (t.namesAt (t.target dir)) := by
  rw [staleNames, hdir]
  dsimp only
  rw [names_of_isDirectory? hdir]

/-- Where there is no directory nothing is found. -/
theorem staleNames_of_not_isDirectory? (hdir : t.isDirectory? dir ≠ .ok true) :
    (staleNames t artifacts dir).1 = [] := by
  unfold staleNames
  split
  · rfl
  · rfl
  · next h => exact absurd h hdir

/-- **The earlier modules that are removed** are those that are found. -/
theorem mem_staleNames_iff :
    name ∈ (staleNames t artifacts dir).1 ↔ Found t dir artifacts name := by
  by_cases hdir : t.isDirectory? dir = .ok true
  · have hblocks : (∀ b ∈ t.namesAt (t.target dir),
        (∃ e, isStale t artifacts dir b = .error e) → name < b) ↔
        ∀ b, Blocks t dir artifacts b → name < b := by
      refine forall_congr' fun b => ⟨fun h hb => ?_, fun h hb he => ?_⟩
      · exact h (mem_namesAt.2 hb.there) ((isStale_eq_error_iff hdir hb.there).2 hb)
      · exact h ((isStale_eq_error_iff hdir (mem_namesAt.1 hb)).1 he)
    have hnames : (t.namesAt (t.target dir)).Pairwise (· ≤ ·) := pairwise_sortNames _
    rw [staleNames_of_isDirectory? hdir, mem_staleAmong_iff hnames, hblocks,
      isStale_eq_true_iff hdir, mem_namesAt]
    constructor
    · exact fun ⟨_, hstale, hbefore⟩ => ⟨hstale, hbefore⟩
    · rintro ⟨hstale, hbefore⟩
      obtain ⟨content, hfile, -⟩ := hstale.compiled
      exact ⟨by simp [hfile], hstale, hbefore⟩
  · rw [staleNames_of_not_isDirectory? hdir]
    exact iff_of_false List.not_mem_nil fun h => hdir h.stale.isDirectory

/-- **The search goes through** when the directory can be asked about and nothing in it breaks the
search off. -/
theorem staleNames_eq_ok_iff :
    (staleNames t artifacts dir).2 = .ok () ↔
      (∃ b, t.isDirectory? dir = .ok b) ∧ ∀ name, ¬ Blocks t dir artifacts name := by
  by_cases hdir : t.isDirectory? dir = .ok true
  · rw [staleNames_of_isDirectory? hdir, staleAmong_eq_ok_iff, and_iff_right ⟨true, hdir⟩]
    constructor
    · exact fun h name hblocks => h name (mem_namesAt.2 hblocks.there)
        ((isStale_eq_error_iff hdir hblocks.there).2 hblocks)
    · exact fun h name hname he =>
        h name ((isStale_eq_error_iff hdir (mem_namesAt.1 hname)).1 he)
  · rw [and_iff_left fun name hblocks => hdir hblocks.isDirectory]
    unfold staleNames
    split
    · next h => simp [h]
    · next h => simp [h]
    · next h => exact absurd h hdir

/-- Modules are found in ascending order, each of them once. -/
theorem pairwise_staleNames (hdistinct : t.Distinct) :
    (staleNames t artifacts dir).1.Pairwise (· < ·) := by
  by_cases hdir : t.isDirectory? dir = .ok true
  · rw [staleNames_of_isDirectory? hdir]
    exact (pairwise_namesAt hdistinct _).sublist (staleAmong_sublist _)
  · rw [staleNames_of_not_isDirectory? hdir]
    exact .nil

/-! ## The removal -/

/-- What is there can be removed. -/
theorem remove_eq_ok {p : Path} {loc : Location} {e : FileEntry} (hlocate : t.locate p = .ok loc)
    (hentry : t.entryAt loc = some e) : t.remove p = .ok (t.erase loc) := by
  rw [FileTree.remove, hlocate]
  simp [bind, Except.bind, hentry]

/-- A name in a directory that is a module file's and no directory's. -/
structure Removable (t : FileTree) (dir : Path) (name : String) : Prop where
  isModuleFile : isModuleFile name = true
  reaches : Reaches dir name
  not_directory : t.entryAt (t.target dir ++ [name]) ≠ some .directory

/-- `t'` is `t` without some files of a directory. -/
structure Removes (t t' : FileTree) (dir : Path) (names : List String) : Prop where
  wellFormed : t'.WellFormed
  keeps : Keeps t t'
  kept : Keeps t' t
  entryAt : ∀ x, t'.entryAt x =
    if ∃ name ∈ names, x = t.target dir ++ [name] then none else t.entryAt x

theorem Removes.refl (hwf : t.WellFormed) (dir : Path) : Removes t t dir [] :=
  ⟨hwf, Keeps.refl t, Keeps.refl t, fun x => by simp⟩

/-- Removing one name takes a file away, or nothing was there. -/
theorem updates_removeAll_cons (names : List String) (hwf : t.WellFormed)
    (hdir : t.isDirectory? dir = .ok true) (h : Removable t dir name) :
    ∃ t', removeAll t dir (name :: names) = removeAll t' dir names ∧
      Updates t t' (t.target dir ++ [name]) none := by
  have hlocate := (locate_entry hdir (ne_dots_of_isModuleFile h.isModuleFile)).2 ⟨h.reaches, rfl⟩
  cases hentry : t.entryAt (t.target dir ++ [name]) with
  | none =>
      have hremove : t.remove (dir.entry name) = .error .notFound := by
        rw [FileTree.remove, hlocate]
        simp [bind, Except.bind, hentry]
      exact ⟨t, by rw [removeAll, List.foldl_cons, hremove]; rfl, updates_self hentry⟩
  | some e =>
      have hremove := remove_eq_ok hlocate hentry
      exact ⟨_, by rw [removeAll, List.foldl_cons, hremove]; rfl,
        updates_erase hwf h.not_directory⟩

/-- **Removing files** of a directory takes those files away and nothing else. -/
theorem removes_removeAll {names : List String} (hwf : t.WellFormed)
    (hdir : t.isDirectory? dir = .ok true) (hnames : ∀ name ∈ names, Removable t dir name) :
    Removes t (removeAll t dir names) dir names := by
  induction names generalizing t with
  | nil => exact Removes.refl hwf dir
  | cons name names ih =>
      rw [List.forall_mem_cons] at hnames
      obtain ⟨t', hstep, hupdates⟩ := updates_removeAll_cons names hwf hdir hnames.1
      have hkeeps := hupdates.keeps (.inr hnames.1.not_directory)
      have hwf' := hupdates.wellFormed hwf (.inr hnames.1.not_directory) rfl
        (isDirectory?_eq_true.1 hdir).2
      have hnames' : ∀ n ∈ names, Removable t' dir n := by
        intro n hn
        refine ⟨(hnames.2 n hn).isModuleFile, (hnames.2 n hn).reaches, ?_⟩
        rw [hkeeps.target, hupdates.entryAt]
        split
        · nofun
        · exact (hnames.2 n hn).not_directory
      have hrest := ih hwf' (hkeeps.isDirectory? hdir) hnames'
      rw [hstep]
      refine ⟨hrest.wellFormed, hkeeps.trans hrest.keeps, hrest.kept.trans (hupdates.kept nofun),
        fun x => ?_⟩
      rw [hrest.entryAt, hkeeps.target, hupdates.entryAt]
      by_cases hx : x = t.target dir ++ [name]
      · simp [hx]
      · simp [hx]

/-- A stale module can be removed. -/
theorem Stale.removable (h : Stale t dir artifacts name) : Removable t dir name := by
  refine ⟨h.isModuleFile, h.reaches, ?_⟩
  obtain ⟨content, hfile, -⟩ := h.compiled
  rw [hfile]
  nofun

/-- **The removal of what was found** takes those files away and nothing else. -/
theorem removes_staleNames (hwf : t.WellFormed) (artifacts : Artifacts) (dir : Path) :
    Removes t (removeAll t dir (staleNames t artifacts dir).1) dir
      (staleNames t artifacts dir).1 := by
  by_cases hdir : t.isDirectory? dir = .ok true
  · exact removes_removeAll hwf hdir fun name hname =>
      (mem_staleNames_iff.1 hname).stale.removable
  · rw [staleNames_of_not_isDirectory? hdir]
    exact Removes.refl hwf dir

/-- The modules found are gone afterwards. -/
theorem Removes.entryAt_found (h : Removes t t' dir (staleNames t artifacts dir).1)
    (hname : Found t dir artifacts name) : t'.entryAt (t.target dir ++ [name]) = none := by
  rw [h.entryAt, if_pos ⟨name, mem_staleNames_iff.2 hname, rfl⟩]

/-- All else is as it was. -/
theorem Removes.entryAt_other {x : Location} (h : Removes t t' dir (staleNames t artifacts dir).1)
    (hx : ∀ name, Found t dir artifacts name → x ≠ t.target dir ++ [name]) :
    t'.entryAt x = t.entryAt x := by
  rw [h.entryAt, if_neg]
  rintro ⟨name, hname, rfl⟩
  exact hx name (mem_staleNames_iff.1 hname) rfl

/-- The removal leaves everything as it was when nothing is found. -/
theorem Removes.entryAt_eq_iff (h : Removes t t' dir (staleNames t artifacts dir).1) :
    (∀ x, t'.entryAt x = t.entryAt x) ↔ ∀ name, ¬ Found t dir artifacts name := by
  constructor
  · intro hsame name hname
    obtain ⟨content, hfile, -⟩ := hname.stale.compiled
    rw [← hsame, h.entryAt_found hname] at hfile
    cases hfile
  · exact fun hnone x => h.entryAt_other fun name hname => absurd hname (hnone name)

end StringCatalog.Package
