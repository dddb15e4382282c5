import StringCatalog.Proofs.Directories

/-!
# StringCatalog.Proofs.Listings

The names in a directory, and how they depend on the entries of the tree.

* `Distinct` — no location has two entries, in a new tree and after any change;
* `Reorders.find`, `Reorders.namesAt` — the order of the entries makes no
  difference to what is found, nor to the names that are listed;
* `pairwise_namesAt` — every name is listed once, in ascending order;
* `isDirectory?_of_entry` — whatever is a directory below a path is among
  the names that are listed there;
* `text_entry_inj` — paths to different names below a path are written apart.
-/

namespace StringCatalog

namespace FileTree

variable {t t' : FileTree} {p : Path} {loc : Location}

/-! ## Entries at different locations -/

/-- No location has two entries. -/
def Distinct (t : FileTree) : Prop := t.entries.keys.Nodup

theorem distinct_new (workingDir : Location) : (new workingDir).Distinct := by
  rw [Distinct, new, OrderedMap.keys, List.map_map, List.Nodup, List.pairwise_map]
  refine List.pairwise_lt_range.imp_of_mem fun {i j} hi hj hlt heq => ?_
  have hlength := congrArg List.length heq
  have hi := List.mem_range.1 hi
  have hj := List.mem_range.1 hj
  simp only [Function.comp, List.length_take] at hlength
  omega

/-- Whatever is put at a place is the only entry there. -/
theorem Distinct.put (h : t.Distinct) (loc : Location) (e : FileEntry) : (t.put loc e).Distinct :=
  OrderedMap.nodup_keys_put t.entries loc e h

theorem Distinct.erase (h : t.Distinct) (loc : Location) : (t.erase loc).Distinct :=
  h.sublist (List.filter_sublist.map _)

/-! ## Sorted names -/

/-- Sorted names are in order. -/
theorem pairwise_sortNames (names : List String) : (sortNames names).Pairwise (· ≤ ·) := by
  have htrans : ∀ a b c : String, decide (a ≤ b) = true → decide (b ≤ c) = true →
      decide (a ≤ c) = true := by
    intro a b c hab hbc
    rw [decide_eq_true_eq] at hab hbc ⊢
    exact String.le_trans hab hbc
  have htotal : ∀ a b : String, (decide (a ≤ b) || decide (b ≤ a)) = true := by
    intro a b
    rw [Bool.or_eq_true, decide_eq_true_eq, decide_eq_true_eq]
    exact String.le_total a b
  exact (List.pairwise_mergeSort htrans htotal names).imp of_decide_eq_true

/-- The order before sorting makes no difference. -/
theorem sortNames_eq_of_perm {names names' : List String} (h : names.Perm names') :
    sortNames names = sortNames names' :=
  ((List.mergeSort_perm names _).trans (h.trans (List.mergeSort_perm names' _).symm)).eq_of_pairwise
    (fun _ _ _ _ => String.le_antisymm) (pairwise_sortNames names) (pairwise_sortNames names')

/-- Names that are listed are in ascending order, and each is listed once. -/
theorem pairwise_namesAt (h : t.Distinct) (loc : Location) :
    (t.namesAt loc).Pairwise (· < ·) := by
  have hnodup : (t.namesAt loc).Nodup := by
    refine (List.mergeSort_perm _ _).nodup_iff.2 ?_
    refine List.Pairwise.filterMap _ ?_ (List.pairwise_map.1 h)
    intro e e' hne name hname name' hname' heq
    subst heq
    exact hne ((name_at_eq_some_iff.1 hname).trans (name_at_eq_some_iff.1 hname').symm)
  refine ((pairwise_sortNames _).and hnodup).imp ?_
  intro a b hab
  exact String.not_le.1 fun hba => hab.2 (String.le_antisymm hab.1 hba)

/-! ## Another order of the entries -/

/-- `t'` is `t` with its entries in some order. -/
structure Reorders (t t' : FileTree) : Prop where
  workingDir : t'.workingDir = t.workingDir
  entries : t'.entries.Perm t.entries

namespace Reorders

variable (h : Reorders t t') (hdistinct : t.Distinct)
include h

/-- A directory has the same names, in order. -/
theorem namesAt (loc : Location) : t'.namesAt loc = t.namesAt loc :=
  sortNames_eq_of_perm (h.entries.filterMap _)

include hdistinct

theorem entryAt (loc : Location) : t'.entryAt loc = t.entryAt loc := by
  rw [FileTree.entryAt, FileTree.entryAt,
    OrderedMap.get?_perm h.entries.symm hdistinct]

theorem walk (loc : Location) (names : List String) : t'.walk loc names = t.walk loc names := by
  induction names generalizing loc with
  | nil => rfl
  | cons name names ih =>
      rw [FileTree.walk, FileTree.walk, h.entryAt hdistinct]
      simp only [ih]

theorem locate (p : Path) : t'.locate p = t.locate p := by
  rw [FileTree.locate, FileTree.locate, h.workingDir, h.walk hdistinct]

theorem find (p : Path) : t'.find p = t.find p := by
  rw [FileTree.find, FileTree.find, h.locate hdistinct]
  simp only [h.entryAt hdistinct]

theorem isDirectory? (p : Path) : t'.isDirectory? p = t.isDirectory? p := by
  rw [FileTree.isDirectory?, FileTree.isDirectory?, test, test, h.find hdistinct]

theorem names (p : Path) : t'.names p = t.names p := by
  rw [FileTree.names, FileTree.names, h.locate hdistinct]
  simp only [h.entryAt hdistinct, h.namesAt]

end Reorders

/-! ## Names below a path -/

/-- What is a directory below a path is listed there. -/
theorem isDirectory?_of_entry {name : String} (hname : name ≠ "..")
    (h : t.isDirectory? (p.entry name) = .ok true) :
    t.isDirectory? p = .ok true ∧ name ∈ t.namesAt (t.target p) := by
  obtain ⟨hlocate, hentry⟩ := isDirectory?_eq_true.1 h
  obtain ⟨hfits, hwalk⟩ := locate_eq_ok.1 hlocate
  obtain ⟨hparent, hdir, -, htarget⟩ := walk_concat_eq_ok.1 hwalk
  have hfits' : Fits p := by
    have hfits' := hfits.parent (List.append_ne_nil_of_right_ne_nil p.names (List.cons_ne_nil _ _))
    rwa [Path.parent, Path.entry, List.dropLast_concat] at hfits'
  refine ⟨isDirectory?_eq_true.2 ⟨locate_eq_ok.2 ⟨hfits', hparent⟩, hdir⟩, mem_namesAt.2 ?_⟩
  rw [htarget, follow, if_neg hname] at hentry
  exact Option.ne_none_iff_exists'.2 ⟨_, hentry⟩

/-- A name is written at the end of its path, after what all paths to names there have in common. -/
theorem exists_text_entry (p : Path) : ∃ start, ∀ name, (p.entry name).text = start ++ name := by
  obtain ⟨anchor, names⟩ := p
  have htext : ∀ name, (Path.entry ⟨anchor, names⟩ name).text =
      anchor.text ++ "/".intercalate (names ++ [name]) := fun name => by
    simp [Path.entry, Path.text]
  by_cases hnames : names = []
  · refine ⟨anchor.text, fun name => ?_⟩
    rw [htext, hnames, List.nil_append, String.intercalate_singleton]
  · refine ⟨anchor.text ++ "/".intercalate names ++ "/", fun name => ?_⟩
    rw [htext, String.intercalate_append_of_ne_nil hnames (List.cons_ne_nil name []),
      String.intercalate_singleton]
    simp only [String.append_assoc]

/-- Paths of different names in a directory have different texts. -/
theorem text_entry_inj {name name' : String} (h : (p.entry name).text = (p.entry name').text) :
    name = name' := by
  obtain ⟨start, hstart⟩ := exists_text_entry p
  rw [hstart, hstart] at h
  have hlist := congrArg String.toList h
  rw [String.toList_append, String.toList_append] at hlist
  exact String.toList_injective (List.append_cancel_left hlist)

end FileTree

end StringCatalog
