import StringCatalog.Proofs.FileTrees

/-!
# StringCatalog.Proofs.Directories

Directories that are made with those they lie in, and the names in them.

* `makeDirs_spec` — making directories changes nothing but the directories on
  the way;
* `makeDirs_eq_ok_iff` — it succeeds exactly when nothing is in the way
  (`CanMake`);
* `locate_entry`, `mem_namesAt` — the names in a directory that is there;
* `test_entry_eq_error_iff` — those that cannot be asked about.
-/

namespace StringCatalog

namespace FileTree

variable {t t' : FileTree} {p : Path} {loc : Location}

/-! ## Making directories -/

/-- `t'` has the files of `t`, and perhaps more directories on the way along a path. -/
structure Extends (t t' : FileTree) (p : Path) : Prop where
  keeps : Keeps t t'
  wellFormed : t'.WellFormed
  files : ∀ x content, t'.entryAt x = some (.file content) ↔ t.entryAt x = some (.file content)
  directories : ∀ x, t'.entryAt x = some .directory → t.entryAt x = some .directory ∨
    ∃ names, names <+: p.names ∧ x = names.foldl follow (t.start p)

theorem Extends.refl (h : t.WellFormed) (p : Path) : Extends t t p :=
  ⟨Keeps.refl t, h, fun _ _ => Iff.rfl, fun _ => .inl⟩

/-- Whatever is there stays. -/
theorem Extends.entryAt_eq_some {e : FileEntry} (h : Extends t t' p) (hentry : t.entryAt loc = some e) :
    t'.entryAt loc = some e := by
  cases e with
  | file content => exact (h.files loc content).2 hentry
  | directory => exact h.keeps.directories loc hentry

/-- Extensions one after the other. -/
theorem Extends.trans {t'' : FileTree} (h : Extends t t' p) (h' : Extends t' t'' p) :
    Extends t t'' p where
  keeps := h.keeps.trans h'.keeps
  wellFormed := h'.wellFormed
  files x content := (h'.files x content).trans (h.files x content)
  directories x hx := by
    rcases h'.directories x hx with hx | ⟨names, hnames, rfl⟩
    · exact h.directories x hx
    · refine .inr ⟨names, hnames, ?_⟩
      rw [FileTree.start, FileTree.start, h.keeps.workingDir]

/-- What extends the tree on the way to the parent does so on the way to the path. -/
theorem Extends.of_parent (h : Extends t t' p.parent) : Extends t t' p where
  keeps := h.keeps
  wellFormed := h.wellFormed
  files := h.files
  directories x hx := by
    rcases h.directories x hx with hx | ⟨names, hnames, rfl⟩
    · exact .inl hx
    · exact .inr ⟨names, hnames.trans (List.dropLast_prefix _), rfl⟩

/-- A directory that was made was missing, at a place that the path leads to. -/
theorem makeDir_eq_ok (h : t.makeDir p = .ok t') :
    t.locate p = .ok (t.target p) ∧ t.entryAt (t.target p) = none ∧
      t' = t.put (t.target p) .directory := by
  unfold makeDir at h
  obtain ⟨loc, hlocate, h⟩ := bind_eq_ok h
  obtain rfl := eq_target_of_locate hlocate
  split at h
  · cases h
  · next hnone => exact ⟨hlocate, hnone, (Except.ok.inj h).symm⟩

/-- Making a directory extends the tree by it. -/
theorem makeDir_spec (hwf : t.WellFormed) (h : t.makeDir p = .ok t') :
    Extends t t' p ∧ t'.isDirectory? p = .ok true := by
  obtain ⟨hlocate, hnone, rfl⟩ := makeDir_eq_ok h
  obtain ⟨parent, name, hloc, hparent⟩ := hwf.parent_of_locate hlocate hnone
  have hupdates : Updates t (t.put (t.target p) .directory) (t.target p) (some .directory) :=
    updates_put (by simp [hloc]) .directory
  have hkeeps := hupdates.keeps (.inl rfl)
  refine ⟨⟨hkeeps, hupdates.wellFormed hwf (.inl rfl) hloc hparent, fun x content => ?_,
    fun x hx => ?_⟩, isDirectory?_eq_true.2 ?_⟩
  · rw [hupdates.entryAt]
    split
    · next hx => simp [hx, hnone]
    · rfl
  · rw [hupdates.entryAt] at hx
    split at hx
    · next heq => exact .inr ⟨p.names, List.prefix_refl _, heq⟩
    · exact .inl hx
  · rw [hkeeps.target, hupdates.entryAt, if_pos rfl]
    exact ⟨hkeeps.locate hlocate, rfl⟩

/-- The error that there is something already is accepted of a directory only. -/
theorem acceptExisting_eq_ok {e : FileError} (h : t.acceptExisting p e = .ok ()) :
    t.isDirectory? p = .ok true := by
  unfold acceptExisting at h
  split at h
  · next hdir => exact hdir
  · cases h
  · cases h

/-- **Making directories** adds directories on the way along the path and changes nothing else; when
it succeeds the path leads to a directory. -/
theorem makeDirs_spec (hwf : t.WellFormed) :
    Extends t (t.makeDirs p).1 p ∧
      ((t.makeDirs p).2 = .ok () → (t.makeDirs p).1.isDirectory? p = .ok true) := by
  fun_induction makeDirs t p with
  | case1 p t' h =>
      obtain ⟨hextends, hdir⟩ := makeDir_spec hwf h
      exact ⟨hextends, fun _ => hdir⟩
  | case2 p h hnames => exact ⟨Extends.refl hwf p, nofun⟩
  | case3 p h hnames t' e hparent ih =>
      rw [hparent] at ih
      exact ⟨ih.1.of_parent, nofun⟩
  | case4 p h hnames t' hparent t'' h' ih =>
      rw [hparent] at ih
      have hextends := ih.1.of_parent
      obtain ⟨hextends', hdir⟩ := makeDir_spec hextends.wellFormed h'
      exact ⟨hextends.trans hextends', fun _ => hdir⟩
  | case5 p h hnames t' hparent h' ih =>
      rw [hparent] at ih
      exact ⟨ih.1.of_parent, nofun⟩
  | case6 p h hnames t' hparent e h' hne ih =>
      rw [hparent] at ih
      exact ⟨ih.1.of_parent, acceptExisting_eq_ok⟩
  | case7 p e h hne => exact ⟨Extends.refl hwf p, acceptExisting_eq_ok⟩

/-- A directory that is there is left as it is. -/
theorem makeDirs_of_isDirectory? (h : t.isDirectory? p = .ok true) :
    t.makeDirs p = (t, .ok ()) := by
  obtain ⟨hlocate, hentry⟩ := isDirectory?_eq_true.1 h
  have hmake : t.makeDir p = .error .alreadyExists := by
    rw [makeDir, hlocate]
    simp [bind, Except.bind, hentry]
  rw [makeDirs, hmake]
  simp [acceptExisting, h]

/-! ## Directories that can be made -/

/-- Whether a path leads to a directory once those on its way are made: an operation takes it, and
no file is in the way. -/
structure CanMake (t : FileTree) (p : Path) : Prop where
  fits : Fits p
  length_le : ∀ name ∈ p.names, name.utf8ByteSize ≤ maxNameBytes
  no_file : ∀ names, names <+: p.names → ∀ content,
    t.entryAt (names.foldl follow (t.start p)) ≠ some (.file content)

theorem exists_text_eq_parent (h : p.names ≠ []) :
    p.parent.text = "." ∨ ∃ rest, p.text = p.parent.text ++ rest := by
  obtain ⟨anchor, names⟩ := p
  obtain ⟨init, name, rfl⟩ := (List.eq_nil_or_concat names).resolve_left h
  have hparent : Path.parent ⟨anchor, init.concat name⟩ = ⟨anchor, init⟩ := by
    rw [Path.parent, List.concat_eq_append, List.dropLast_concat]
  rw [hparent, List.concat_eq_append]
  by_cases hinit : init = []
  · subst hinit
    cases anchor with
    | relative => exact .inl rfl
    | root => exact .inr ⟨name, by simp [Path.text, Anchor.text]⟩
    | doubleRoot => exact .inr ⟨name, by simp [Path.text, Anchor.text]⟩
  · refine .inr ⟨"/" ++ name, ?_⟩
    have hempty : init.isEmpty = false := by simpa using hinit
    have happend : "/".intercalate (init ++ [name]) = "/".intercalate init ++ ("/" ++ name) := by
      rw [String.intercalate_append_of_ne_nil hinit (List.cons_ne_nil name []),
        String.intercalate_singleton, String.append_assoc]
    simp [Path.text, hempty, happend, String.append_assoc]

/-- The text of a path is no shorter than that of the directory it ends in. -/
theorem Fits.parent (h : Fits p) (hnames : p.names ≠ []) : Fits p.parent := by
  obtain ⟨hnull, hlength⟩ := h
  rcases exists_text_eq_parent hnames with htext | ⟨rest, htext⟩
  · constructor
    · rw [htext]
      decide
    · rw [htext]
      decide
  · rw [htext] at hnull hlength
    constructor
    · exact fun hmem => hnull (String.toList_append ▸ List.mem_append_left _ hmem)
    · rw [String.utf8ByteSize_append] at hlength
      omega

/-- For a path of a permitted length, to find its place is to walk its names. -/
theorem Fits.locate_eq_walk (h : Fits p) (t : FileTree) :
    t.locate p = t.walk (t.start p) p.names := by
  have hnull : p.text.toList.contains '\x00' = false := by simpa using h.no_null
  rw [locate, hnull, if_neg Bool.false_ne_true, if_neg (Nat.not_lt.2 h.length_le)]
  rfl

/-- Where a directory can be made, its parent can. -/
theorem CanMake.parent (h : CanMake t p) (hnames : p.names ≠ []) : CanMake t p.parent where
  fits := h.fits.parent hnames
  length_le name hname := h.length_le name ((List.dropLast_prefix _).subset hname)
  no_file names hinit := h.no_file names (hinit.trans (List.dropLast_prefix _))

/-- Directories made on the way to a path do not change whether it can be made. -/
theorem Extends.canMake (h : Extends t t' p) : CanMake t' p ↔ CanMake t p := by
  have hstart : t'.start p = t.start p := by
    rw [FileTree.start, FileTree.start, h.keeps.workingDir]
  have hfiles : ∀ x, (∀ content, t'.entryAt x ≠ some (.file content)) ↔
      ∀ content, t.entryAt x ≠ some (.file content) :=
    fun x => forall_congr' fun content => not_congr (h.files x content)
  constructor
  · exact fun hcan => ⟨hcan.fits, hcan.length_le, fun names hnames =>
      (hfiles _).1 (hstart ▸ hcan.no_file names hnames)⟩
  · exact fun hcan => ⟨hcan.fits, hcan.length_le, fun names hnames =>
      (hfiles _).2 (hstart ▸ hcan.no_file names hnames)⟩

/-- Where nothing is in the way, names lead somewhere or something on their way is missing. -/
theorem walk_of_no_file {names : List String}
    (hlength : ∀ name ∈ names, name.utf8ByteSize ≤ maxNameBytes)
    (hfile : ∀ init, init <+: names → ∀ content,
      t.entryAt (init.foldl follow loc) ≠ some (.file content)) :
    t.walk loc names = .error .notFound ∨ t.walk loc names = .ok (names.foldl follow loc) := by
  induction names generalizing loc with
  | nil => exact .inr rfl
  | cons name names ih =>
      cases hloc : t.entryAt loc with
      | none => exact .inl (by simp [walk, hloc])
      | some e =>
          cases e with
          | file content => exact absurd hloc (hfile [] List.nil_prefix content)
          | directory =>
              have hname := hlength name List.mem_cons_self
              have hstep : t.walk loc (name :: names) = t.walk (follow loc name) names := by
                simp [walk, hloc, Nat.not_lt.2 hname, follow]
              rw [hstep]
              exact ih (fun n hn => hlength n (List.mem_cons_of_mem name hn)) fun init hinit =>
                hfile (name :: init) ((List.prefix_cons_inj name).2 hinit)

/-- A path on which nothing is in the way leads to a directory already, or it can be made, or one
that it lies in is missing. -/
theorem CanMake.makeDir (h : CanMake t p) :
    t.isDirectory? p = .ok true ∨ (∃ t', t.makeDir p = .ok t') ∨
      t.makeDir p = .error .notFound := by
  have hlocate := h.fits.locate_eq_walk t
  rcases walk_of_no_file h.length_le h.no_file with hwalk | hwalk
  · refine .inr (.inr ?_)
    rw [FileTree.makeDir, hlocate, hwalk]
    rfl
  · rw [hwalk] at hlocate
    cases hentry : t.entryAt (t.target p) with
    | none =>
        refine .inr (.inl ⟨t.put (t.target p) .directory, ?_⟩)
        rw [FileTree.makeDir, hlocate]
        simp only [bind, Except.bind]
        rw [← FileTree.target, hentry]
    | some e =>
        cases e with
        | file content => exact absurd hentry (h.no_file p.names (List.prefix_refl _) content)
        | directory => exact .inl (isDirectory?_eq_true.2 ⟨hlocate, hentry⟩)

/-- Where a directory can be made, all errors but a missing parent mean that it is there. -/
theorem acceptExisting_of_canMake (h : CanMake t p) {e : FileError}
    (hmake : t.makeDir p = .error e) (hne : e ≠ .notFound) : t.acceptExisting p e = .ok () := by
  rcases h.makeDir with hdir | ⟨t', hmake'⟩ | hmake'
  · rw [acceptExisting, hdir]
  · rw [hmake'] at hmake
    cases hmake
  · rw [hmake'] at hmake
    cases hmake
    exact absurd rfl hne

/-- Names that lead to a directory lead through directories. -/
theorem directories_of_walk {names : List String} {loc' : Location}
    (hwalk : t.walk loc names = .ok loc') (hloc : t.entryAt loc' = some .directory) :
    (∀ name ∈ names, name.utf8ByteSize ≤ maxNameBytes) ∧
      ∀ init, init <+: names → t.entryAt (init.foldl follow loc) = some .directory := by
  induction names generalizing loc with
  | nil =>
      cases hwalk
      refine ⟨nofun, fun init hinit => ?_⟩
      rw [List.prefix_nil.1 hinit]
      exact hloc
  | cons name names ih =>
      obtain ⟨hdir, hname, hrest⟩ := walk_cons_eq_ok.1 hwalk
      obtain ⟨hlengths, hinits⟩ := ih hrest
      refine ⟨List.forall_mem_cons.2 ⟨hname, hlengths⟩, fun init hinit => ?_⟩
      rcases List.prefix_cons_iff.1 hinit with rfl | ⟨init', rfl, hinit'⟩
      · exact hdir
      · exact hinits init' hinit'

/-- A directory that is there can be made. -/
theorem canMake_of_isDirectory? (h : t.isDirectory? p = .ok true) : CanMake t p := by
  obtain ⟨hlocate, hentry⟩ := isDirectory?_eq_true.1 h
  obtain ⟨hfits, hwalk⟩ := locate_eq_ok.1 hlocate
  obtain ⟨hlengths, hdirs⟩ := directories_of_walk hwalk hentry
  refine ⟨hfits, hlengths, fun names hnames content hfile => ?_⟩
  rw [hdirs names hnames] at hfile
  cases hfile

/-- Of a path with one name more than one that leads to a directory nothing is missing. -/
theorem CanMake.locate_of_parent (h : CanMake t p)
    (hparent : p.names ≠ [] → t.isDirectory? p.parent = .ok true) :
    t.locate p = .ok (t.target p) := by
  rw [h.fits.locate_eq_walk t, FileTree.target]
  rcases List.eq_nil_or_concat p.names with hnames | ⟨init, name, hnames⟩
  · rw [hnames]
    rfl
  · rw [List.concat_eq_append] at hnames
    obtain ⟨hlocate, hentry⟩ := isDirectory?_eq_true.1 (hparent (by simp [hnames]))
    have hinit : p.parent.names = init := by rw [Path.parent, hnames, List.dropLast_concat]
    have hwalk := (locate_eq_ok.1 hlocate).2
    rw [FileTree.target, hinit] at hwalk hentry
    have hname := h.length_le name (by simp [hnames])
    rw [hnames, walk_concat_eq_ok, List.foldl_append]
    exact ⟨hwalk, hentry, hname, rfl⟩

/-- A place that the path leads to does not lack its parent. -/
theorem makeDir_ne_notFound (h : t.locate p = .ok loc) : t.makeDir p ≠ .error .notFound := by
  rw [FileTree.makeDir, h]
  cases hentry : t.entryAt loc <;> simp [bind, Except.bind, hentry]

/-- **Making directories** succeeds exactly when nothing is in the way. -/
theorem makeDirs_eq_ok_iff (hwf : t.WellFormed) : (t.makeDirs p).2 = .ok () ↔ CanMake t p := by
  constructor
  · intro h
    obtain ⟨hextends, hdir⟩ := makeDirs_spec hwf (p := p)
    exact hextends.canMake.1 (canMake_of_isDirectory? (hdir h))
  · intro hcan
    fun_induction makeDirs t p with
    | case1 p t' h => rfl
    | case2 p h hnames =>
        exact absurd h (makeDir_ne_notFound (hcan.locate_of_parent fun hne => absurd hnames hne))
    | case3 p h hnames t' e hparent ih =>
        rw [hparent] at ih
        exact ih (hcan.parent hnames)
    | case4 p h hnames t' hparent t'' h' ih => rfl
    | case5 p h hnames t' hparent h' ih =>
        obtain ⟨hextends, hdir⟩ := makeDirs_spec hwf (p := p.parent)
        rw [hparent] at hextends hdir
        have hcan' := hextends.of_parent.canMake.2 hcan
        exact absurd h' (makeDir_ne_notFound (hcan'.locate_of_parent fun _ => hdir rfl))
    | case6 p h hnames t' hparent e hne h' ih =>
        obtain ⟨hextends, -⟩ := makeDirs_spec hwf (p := p.parent)
        rw [hparent] at hextends
        exact acceptExisting_of_canMake (hextends.of_parent.canMake.2 hcan) h' hne
    | case7 p e hne h => exact acceptExisting_of_canMake hcan h hne

/-- A path on which nothing is in the way can be asked about. -/
theorem CanMake.isDirectory? (h : CanMake t p) : ∃ b, t.isDirectory? p = .ok b := by
  have hlocate := h.fits.locate_eq_walk t
  rw [FileTree.isDirectory?, test, find, hlocate]
  rcases walk_of_no_file h.length_le h.no_file with hwalk | hwalk
  · rw [hwalk]
    exact ⟨false, rfl⟩
  · rw [hwalk]
    cases hentry : t.entryAt (p.names.foldl follow (t.start p)) with
    | none => exact ⟨false, by simp [bind, Except.bind, hentry]⟩
    | some e => exact ⟨_, by simp [bind, Except.bind, hentry]; rfl⟩

/-! ## Names in a directory -/

/-- A name in a directory that an operation takes. -/
structure Reaches (dir : Path) (name : String) : Prop where
  fits : Fits (dir.entry name)
  length_le : name.utf8ByteSize ≤ maxNameBytes

instance (dir : Path) (name : String) : Decidable (Reaches dir name) :=
  decidable_of_iff (Fits (dir.entry name) ∧ name.utf8ByteSize ≤ maxNameBytes)
    ⟨fun h => ⟨h.1, h.2⟩, fun h => ⟨h.fits, h.length_le⟩⟩

section Directory

variable {dir : Path} {name : String}

/-- A name leads from a directory that is there to the location of that name below it. -/
theorem locate_entry (hdir : t.isDirectory? dir = .ok true) (hname : name ≠ "..") :
    t.locate (dir.entry name) = .ok loc ↔ Reaches dir name ∧ loc = t.target dir ++ [name] := by
  obtain ⟨hlocate, hentry⟩ := isDirectory?_eq_true.1 hdir
  have hwalk := (locate_eq_ok.1 hlocate).2
  have hstart : t.start (dir.entry name) = t.start dir := rfl
  have hnames : (dir.entry name).names = dir.names ++ [name] := rfl
  rw [locate_eq_ok, hstart, hnames, walk_concat_eq_ok]
  change _ ∧ t.walk (t.start dir) dir.names = .ok (t.target dir) ∧
    t.entryAt (t.target dir) = some .directory ∧ _ ∧ loc = follow (t.target dir) name ↔ _
  rw [follow, if_neg hname]
  constructor
  · rintro ⟨hfits, -, -, hlength, hloc⟩
    exact ⟨⟨hfits, hlength⟩, hloc⟩
  · rintro ⟨⟨hfits, hlength⟩, hloc⟩
    exact ⟨hfits, hwalk, hentry, hlength, hloc⟩

/-- A name that is too long is not followed from a directory that is there. -/
theorem walk_concat_of_long {names : List String} {loc' : Location}
    (hwalk : t.walk loc names = .ok loc') (hentry : t.entryAt loc' = some .directory)
    (hlong : maxNameBytes < name.utf8ByteSize) :
    t.walk loc (names ++ [name]) = .error .nameTooLong := by
  induction names generalizing loc with
  | nil =>
      cases hwalk
      simp [walk, hentry, hlong]
  | cons n names ih =>
      obtain ⟨hdir, hn, hrest⟩ := walk_cons_eq_ok.1 hwalk
      rw [List.cons_append, walk, hdir]
      dsimp only
      rw [if_neg (Nat.not_lt.2 hn)]
      exact ih hrest

/-- In a directory that is there a question about a name is refused exactly when the name, or the
path with it, is too long. -/
theorem test_entry_eq_error_iff {sort : FileEntry → Bool} (hdir : t.isDirectory? dir = .ok true)
    (hname : name ≠ "..") :
    t.test (dir.entry name) sort = .error .nameTooLong ↔
      '\x00' ∉ (dir.entry name).text.toList ∧ ¬ Reaches dir name := by
  by_cases hnull : '\x00' ∈ (dir.entry name).text.toList
  · refine iff_of_false ?_ fun h => h.1 hnull
    have hlocate : t.locate (dir.entry name) = .error .embeddedNull := by
      rw [locate, if_pos (by simpa using hnull)]
    rw [test, find, hlocate]
    intro h
    cases h
  rw [and_iff_right hnull]
  by_cases hreaches : Reaches dir name
  · refine iff_of_false ?_ fun h => h hreaches
    have hlocate := (locate_entry hdir hname).2 ⟨hreaches, rfl⟩
    rw [test, find, hlocate]
    cases hentry : t.entryAt (t.target dir ++ [name]) <;> simp [bind, Except.bind, hentry]
  · refine iff_of_true ?_ hreaches
    have hlocate : t.locate (dir.entry name) = .error .nameTooLong := by
      by_cases hpath : (dir.entry name).text.utf8ByteSize ≤ maxPathBytes
      · obtain ⟨hlocate, hentry⟩ := isDirectory?_eq_true.1 hdir
        have hlong : maxNameBytes < name.utf8ByteSize :=
          Nat.not_le.1 fun hle => hreaches ⟨⟨hnull, hpath⟩, hle⟩
        rw [Fits.locate_eq_walk ⟨hnull, hpath⟩]
        exact walk_concat_of_long (locate_eq_ok.1 hlocate).2 hentry hlong
      · rw [locate, if_neg (by simpa using hnull), if_pos (Nat.not_le.1 hpath)]
    rw [test, find, hlocate]
    rfl

theorem name_at_eq_some_iff {path : Location} :
    (if path.dropLast = loc then path.getLast? else none) = some name ↔ path = loc ++ [name] := by
  constructor
  · intro h
    split at h
    · next hdrop =>
      obtain ⟨parent, hlast⟩ := List.getLast?_eq_some_iff.1 h
      rw [hlast, List.dropLast_concat] at hdrop
      rw [hlast, hdrop]
    · cases h
  · rintro rfl
    rw [List.dropLast_concat, if_pos rfl, List.getLast?_concat]

/-- A directory has the names of what is under it. -/
theorem mem_namesAt : name ∈ t.namesAt loc ↔ t.entryAt (loc ++ [name]) ≠ none := by
  rw [entryAt_ne_none_iff, namesAt, sortNames, List.mem_mergeSort, List.mem_filterMap]
  exact exists_congr fun e => and_congr_right fun _ => name_at_eq_some_iff

theorem names_of_isDirectory? (hdir : t.isDirectory? dir = .ok true) :
    t.names dir = .ok (t.namesAt (t.target dir)) := by
  obtain ⟨hlocate, hentry⟩ := isDirectory?_eq_true.1 hdir
  rw [names, hlocate]
  simp [bind, Except.bind, hentry]

end Directory

end FileTree

end StringCatalog
