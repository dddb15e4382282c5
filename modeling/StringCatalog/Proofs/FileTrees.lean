import StringCatalog.FileTree
import StringCatalog.Proofs.Maps
import StringCatalog.Proofs.Outcomes

/-!
# StringCatalog.Proofs.FileTrees

What the operations on a tree of files do to it.  Each of them puts an entry at
one location or takes a file away, so that one notion of a change serves all:
`Updates` says what is at every location afterwards.

* `WellFormed` — everything lies in a directory, and so does the work, from a new
  tree on (`wellFormed_new`);
* `Updates.wellFormed`, `Keeps.locate` — changes that take no directory away
  keep a tree well formed and keep every path that can be followed.
-/

namespace StringCatalog

namespace FileTree

variable {t t' : FileTree} {p : Path} {loc : Location}

/-! ## Well-formed trees -/

/-- Whatever is in the tree lies in a directory, and the working directory is one. -/
structure WellFormed (t : FileTree) : Prop where
  parent : ∀ loc name, t.entryAt (loc ++ [name]) ≠ none → t.entryAt loc = some .directory
  workingDir : t.entryAt t.workingDir = some .directory

@[simp] theorem entryAt_nil (t : FileTree) : t.entryAt [] = some .directory := rfl

/-- Whatever is there lies in a directory. -/
theorem WellFormed.dropLast (h : t.WellFormed) (hloc : t.entryAt loc ≠ none) :
    t.entryAt loc.dropLast = some .directory := by
  rcases List.eq_nil_or_concat loc with rfl | ⟨parent, name, rfl⟩
  · rfl
  · rw [List.concat_eq_append] at hloc ⊢
    rw [List.dropLast_concat]
    exact h.parent parent name hloc

/-- Nothing lies below what is no directory. -/
theorem WellFormed.none_below (h : t.WellFormed) (hloc : t.entryAt loc ≠ some .directory)
    {below : Location} (hbelow : below ≠ []) : t.entryAt (loc ++ below) = none := by
  induction hn : below.length generalizing below with
  | zero => exact absurd (List.length_eq_zero_iff.1 hn) hbelow
  | succ n ih =>
      obtain rfl | ⟨init, name, rfl⟩ := List.eq_nil_or_concat below
      · exact absurd rfl hbelow
      · rw [List.concat_eq_append] at hn ⊢
        cases hentry : t.entryAt (loc ++ (init ++ [name])) with
        | none => rfl
        | some e =>
            have hparent : t.entryAt (loc ++ init) = some .directory := by
              refine h.parent _ name ?_
              rw [List.append_assoc, hentry]
              exact Option.some_ne_none e
            by_cases hinit : init = []
            · rw [hinit, List.append_nil] at hparent
              exact absurd hparent hloc
            · rw [ih hinit (by simpa using hn)] at hparent
              cases hparent

/-- There is something at a place below the root if an entry is listed for it. -/
theorem entryAt_ne_none_iff {name : String} :
    t.entryAt (loc ++ [name]) ≠ none ↔ ∃ e ∈ t.entries, e.1 = loc ++ [name] := by
  have hempty : (loc ++ [name]).isEmpty = false := by simp
  rw [entryAt, hempty, if_neg Bool.false_ne_true, Ne, OrderedMap.get?_eq_none_iff]
  simp

/-- A tree is well-formed if each entry listed lies in a directory, and the working directory is
one. -/
theorem wellFormed_of_entries (hentries : ∀ e ∈ t.entries, t.entryAt e.1.dropLast = some .directory)
    (hworkingDir : t.entryAt t.workingDir = some .directory) : t.WellFormed where
  parent loc name hne := by
    obtain ⟨e, he, heq⟩ := entryAt_ne_none_iff.1 hne
    have hloc := hentries e he
    rwa [heq, List.dropLast_concat] at hloc
  workingDir := hworkingDir

/-- In a new tree the way to the working directory is made of directories. -/
theorem entryAt_take_new (workingDir : Location) {n : Nat} (h : n ≤ workingDir.length) :
    (new workingDir).entryAt (workingDir.take n) = some .directory := by
  cases n with
  | zero => rfl
  | succ i =>
      have hmem : (workingDir.take (i + 1), FileEntry.directory) ∈ (new workingDir).entries :=
        List.mem_map.2 ⟨i, List.mem_range.2 h, rfl⟩
      unfold entryAt
      split
      · rfl
      · cases hget : (new workingDir).entries.get? (workingDir.take (i + 1)) with
        | none => exact absurd rfl (OrderedMap.get?_eq_none_iff.1 hget _ hmem)
        | some e =>
            obtain ⟨j, -, heq⟩ := List.mem_map.1 (OrderedMap.mem_of_get? hget)
            rw [← (Prod.mk.inj heq).2]

/-- A new tree is well formed. -/
theorem wellFormed_new (workingDir : Location) : (new workingDir).WellFormed := by
  refine wellFormed_of_entries (fun e he => ?_) ?_
  · obtain ⟨i, hi, rfl⟩ := List.mem_map.1 he
    have hle : i < workingDir.length := List.mem_range.1 hi
    have hparent := entryAt_take_new workingDir (Nat.le_of_lt hle)
    rw [List.take_succ_eq_append_getElem hle, List.dropLast_concat]
    exact hparent
  · have h := entryAt_take_new workingDir (Nat.le_refl _)
    rwa [List.take_length] at h

/-! ## Following paths -/

/-- Names apart stand at locations apart. -/
theorem name_inj {name name' : String} (h : loc ++ [name] = loc ++ [name']) : name = name' :=
  (List.cons.inj (List.append_cancel_left h)).1

/-- Where a path starts. -/
def start (t : FileTree) (p : Path) : Location := if p.isAbsolute then [] else t.workingDir

/-- Where a name leads from a location. -/
def follow (loc : Location) (name : String) : Location :=
  if name = ".." then loc.dropLast else loc ++ [name]

/-- Where a path leads if it can be followed. -/
def target (t : FileTree) (p : Path) : Location := p.names.foldl follow (t.start p)

/-- Whether the text of a path is one that an operation takes. -/
structure Fits (p : Path) : Prop where
  no_null : '\x00' ∉ p.text.toList
  length_le : p.text.utf8ByteSize ≤ maxPathBytes

instance (p : Path) : Decidable (Fits p) :=
  decidable_of_iff ('\x00' ∉ p.text.toList ∧ p.text.utf8ByteSize ≤ maxPathBytes)
    ⟨fun h => ⟨h.1, h.2⟩, fun h => ⟨h.no_null, h.length_le⟩⟩

/-- A walk over names takes the first from a directory and goes on from there. -/
theorem walk_cons_eq_ok {name : String} {names : List String} {loc' : Location} :
    t.walk loc (name :: names) = .ok loc' ↔
      t.entryAt loc = some .directory ∧ name.utf8ByteSize ≤ maxNameBytes ∧
        t.walk (follow loc name) names = .ok loc' := by
  rw [walk]
  split
  · next h => simp [h]
  · next h => simp [h]
  · next h =>
    split
    · next hname => simp [Nat.not_le.2 hname]
    · next hname => simp [h, Nat.not_lt.1 hname, follow]

/-- A walk ends where following the names leads to. -/
theorem eq_foldl_of_walk {names : List String} {loc' : Location}
    (h : t.walk loc names = .ok loc') : loc' = names.foldl follow loc := by
  induction names generalizing loc with
  | nil => exact (Except.ok.inj h).symm
  | cons name names ih => exact ih (walk_cons_eq_ok.1 h).2.2

/-- The last name of a path is followed from where the others lead. -/
theorem walk_concat_eq_ok {names : List String} {name : String} {loc' : Location} :
    t.walk loc (names ++ [name]) = .ok loc' ↔
      t.walk loc names = .ok (names.foldl follow loc) ∧
        t.entryAt (names.foldl follow loc) = some .directory ∧
        name.utf8ByteSize ≤ maxNameBytes ∧ loc' = follow (names.foldl follow loc) name := by
  induction names generalizing loc with
  | nil =>
      rw [List.nil_append, walk_cons_eq_ok]
      simp [walk, eq_comm]
  | cons n names ih =>
      rw [List.cons_append, walk_cons_eq_ok, ih, walk_cons_eq_ok, List.foldl_cons]
      simp only [and_assoc]

/-- The place of a path is found if the path fits and its names can be walked. -/
theorem locate_eq_ok :
    t.locate p = .ok loc ↔ Fits p ∧ t.walk (t.start p) p.names = .ok loc := by
  rw [locate]
  split
  · next h =>
    refine iff_of_false nofun fun hfits => hfits.1.no_null ?_
    simpa using h
  · next hnull =>
    split
    · next h => exact iff_of_false nofun fun hfits => Nat.not_le.2 h hfits.1.length_le
    · next h =>
      have hfits : Fits p := ⟨by simpa using hnull, Nat.not_lt.1 h⟩
      simp [hfits, start]

/-- A place that is found is the one that the path aims at. -/
theorem eq_target_of_locate (h : t.locate p = .ok loc) : loc = t.target p :=
  eq_foldl_of_walk (locate_eq_ok.1 h).2

/-- A path starts at a directory. -/
theorem WellFormed.start (h : t.WellFormed) (p : Path) :
    t.entryAt (t.start p) = some .directory := by
  unfold FileTree.start
  split
  · rfl
  · exact h.workingDir

/-- Where a path leads to nothing, the location lies in a directory. -/
theorem WellFormed.parent_of_locate (h : t.WellFormed) (hlocate : t.locate p = .ok loc)
    (hloc : t.entryAt loc = none) :
    ∃ parent name, loc = parent ++ [name] ∧ t.entryAt parent = some .directory := by
  have hwalk := (locate_eq_ok.1 hlocate).2
  rcases List.eq_nil_or_concat p.names with hnames | ⟨names, name, hnames⟩
  · rw [hnames] at hwalk
    rw [← Except.ok.inj hwalk, h.start p] at hloc
    cases hloc
  · rw [hnames, List.concat_eq_append, walk_concat_eq_ok] at hwalk
    obtain ⟨-, hparent, -, rfl⟩ := hwalk
    generalize names.foldl follow (t.start p) = parent at hparent hloc ⊢
    by_cases hdots : name = ".."
    · rw [follow, if_pos hdots, h.dropLast (by simp [hparent])] at hloc
      cases hloc
    · exact ⟨parent, name, if_neg hdots, hparent⟩

/-! ## Changes -/

/-- `t'` is `t` with `e` at one location. -/
structure Updates (t t' : FileTree) (loc : Location) (e : Option FileEntry) : Prop where
  workingDir : t'.workingDir = t.workingDir
  entryAt : ∀ x, t'.entryAt x = if x = loc then e else t.entryAt x

/-- `t'` has the directories of `t`, and the same working directory. -/
structure Keeps (t t' : FileTree) : Prop where
  workingDir : t'.workingDir = t.workingDir
  directories : ∀ x, t.entryAt x = some .directory → t'.entryAt x = some .directory

theorem Keeps.refl (t : FileTree) : Keeps t t := ⟨rfl, fun _ => id⟩

theorem Keeps.trans {t'' : FileTree} (h : Keeps t t') (h' : Keeps t' t'') : Keeps t t'' :=
  ⟨h'.workingDir.trans h.workingDir, fun x hx => h'.directories x (h.directories x hx)⟩

/-- Trees with the same working directory have the same places for their paths. -/
theorem Keeps.target (h : Keeps t t') (p : Path) : t'.target p = t.target p := by
  rw [FileTree.target, FileTree.target, FileTree.start, FileTree.start, h.workingDir]

/-- A path that can be followed still can be. -/
theorem Keeps.walk (h : Keeps t t') {names : List String} {loc' : Location}
    (hwalk : t.walk loc names = .ok loc') : t'.walk loc names = .ok loc' := by
  induction names generalizing loc with
  | nil => exact hwalk
  | cons name names ih =>
      rw [walk_cons_eq_ok] at hwalk ⊢
      exact ⟨h.directories loc hwalk.1, hwalk.2.1, ih hwalk.2.2⟩

/-- A place is still found where directories were kept. -/
theorem Keeps.locate (h : Keeps t t') (hlocate : t.locate p = .ok loc) :
    t'.locate p = .ok loc := by
  rw [locate_eq_ok, FileTree.start] at hlocate ⊢
  rw [h.workingDir]
  exact ⟨hlocate.1, h.walk hlocate.2⟩

theorem updates_put (h : loc ≠ []) (e : FileEntry) : Updates t (t.put loc e) loc (some e) where
  workingDir := rfl
  entryAt x := by
    split
    · next hx => rw [hx, entryAt_put_self t e h]
    · next hx => exact entryAt_put_of_ne t e hx

theorem updates_self {e : Option FileEntry} (h : t.entryAt loc = e) : Updates t t loc e where
  workingDir := rfl
  entryAt x := by
    split
    · next hx => rw [hx, h]
    · rfl

/-- What is erased at a place is gone with all that lies below, and nothing else is. -/
theorem entryAt_erase (t : FileTree) {x : Location} (hx : x ≠ []) :
    (t.erase loc).entryAt x = if loc <+: x then none else t.entryAt x := by
  have hempty : x.isEmpty = false := by simpa using hx
  rw [entryAt, entryAt, hempty, erase, OrderedMap.get?_filter _ fun x => !loc.isPrefixOf x]
  by_cases hpre : loc <+: x
  · have hbool : loc.isPrefixOf x = true := List.isPrefixOf_iff_prefix.2 hpre
    simp [hpre, hbool]
  · have hbool : loc.isPrefixOf x = false :=
      Bool.eq_false_iff.2 fun h => hpre (List.isPrefixOf_iff_prefix.1 h)
    simp [hpre, hbool]

/-- Taking a file away leaves the rest as it is, as nothing lies below a file. -/
theorem updates_erase (h : t.WellFormed) (hdir : t.entryAt loc ≠ some .directory) :
    Updates t (t.erase loc) loc none where
  workingDir := rfl
  entryAt x := by
    by_cases hx : x = []
    · have hne : x ≠ loc := by
        rintro rfl
        exact hdir (hx ▸ t.entryAt_nil)
      rw [if_neg hne, hx]
      rfl
    · rw [entryAt_erase t hx]
      by_cases hpre : loc <+: x
      · obtain ⟨below, rfl⟩ := hpre
        rw [if_pos (List.prefix_append loc below)]
        split
        · rfl
        · next hne =>
          exact (h.none_below hdir fun hbelow => hne (by rw [hbelow, List.append_nil])).symm
      · rw [if_neg hpre, if_neg]
        rintro rfl
        exact hpre (List.prefix_refl _)

namespace Updates

variable {e : Option FileEntry}

/-- A change that puts a directory or replaces none keeps all directories. -/
theorem keeps (h : Updates t t' loc e)
    (hdir : e = some .directory ∨ t.entryAt loc ≠ some .directory) : Keeps t t' where
  workingDir := h.workingDir
  directories x hx := by
    rw [h.entryAt]
    split
    · next hloc => exact hdir.resolve_right fun hne => hne (hloc ▸ hx)
    · exact hx

/-- A change that puts no directory adds none. -/
theorem kept (h : Updates t t' loc e) (he : e ≠ some .directory) : Keeps t' t where
  workingDir := h.workingDir.symm
  directories x hx := by
    rw [h.entryAt] at hx
    split at hx
    · exact absurd hx he
    · exact hx

/-- A change in a directory keeps a tree well formed if it keeps all directories. -/
theorem wellFormed (h : Updates t t' loc e) (hwf : t.WellFormed)
    (hdir : e = some .directory ∨ t.entryAt loc ≠ some .directory) {parent : Location}
    {name : String} (hloc : loc = parent ++ [name])
    (hparent : t.entryAt parent = some .directory) : t'.WellFormed where
  parent x n hx := by
    refine (h.keeps hdir).directories x ?_
    rw [h.entryAt] at hx
    split at hx
    · next heq =>
      rw [hloc] at heq
      rw [(List.append_inj' heq rfl).1]
      exact hparent
    · exact hwf.parent x n hx
  workingDir := by
    rw [h.workingDir]
    exact (h.keeps hdir).directories _ hwf.workingDir

end Updates

/-! ## Questions -/

/-- What a path finds is the entry at its place. -/
theorem find_eq_ok {e : FileEntry} :
    t.find p = .ok e ↔ ∃ loc, t.locate p = .ok loc ∧ t.entryAt loc = some e := by
  unfold find
  cases t.locate p with
  | error _ => exact iff_of_false nofun nofun
  | ok loc =>
      cases h : t.entryAt loc with
      | none => simp [bind, Except.bind, h]
      | some e' => simp [bind, Except.bind, h]

/-- A path is that of a directory if its place is found and is one. -/
theorem isDirectory?_eq_true :
    t.isDirectory? p = .ok true ↔
      t.locate p = .ok (t.target p) ∧ t.entryAt (t.target p) = some .directory := by
  have hfind : t.isDirectory? p = .ok true ↔ t.find p = .ok .directory := by
    rw [isDirectory?, test]
    split
    · next e h => cases e <;> simp [h]
    · next h => simp [h]
    · next h => simp [h]
  rw [hfind, find_eq_ok]
  constructor
  · rintro ⟨loc, hlocate, hentry⟩
    obtain rfl := eq_target_of_locate hlocate
    exact ⟨hlocate, hentry⟩
  · exact fun h => ⟨_, h⟩

/-- A directory stays one where directories were kept. -/
theorem Keeps.isDirectory? (h : Keeps t t') (hdir : t.isDirectory? p = .ok true) :
    t'.isDirectory? p = .ok true := by
  rw [isDirectory?_eq_true] at hdir ⊢
  rw [h.target]
  exact ⟨h.locate hdir.1, h.directories _ hdir.2⟩

/-- What is read at a path is the content of a file. -/
theorem read_eq_ok {content : ByteArray} :
    t.read p = .ok content ↔
      ∃ loc, t.locate p = .ok loc ∧ t.entryAt loc = some (.file content) := by
  rw [← find_eq_ok, read]
  cases t.find p with
  | error _ => exact iff_of_false nofun nofun
  | ok e => cases e <;> simp [bind, Except.bind]

/-- A question about a path is refused only when a name on it, or the path, is too long. -/
theorem eq_nameTooLong_of_test {sort : FileEntry → Bool} {e : FileError}
    (h : t.test p sort = .error e) : e = .nameTooLong := by
  unfold test at h
  split at h
  · cases h
  · exact (Except.error.inj h).symm
  · cases h

/-- A file that the file system says is there can be read. -/
theorem isFile?_eq_true : t.isFile? p = .ok true ↔ ∃ content, t.read p = .ok content := by
  rw [isFile?, test, read]
  cases t.find p with
  | error e => cases e <;> simp [bind, Except.bind]
  | ok e => cases e <;> simp [bind, Except.bind]

end FileTree

end StringCatalog
