import StringCatalog.Proofs.Directories

/-!
# StringCatalog.Proofs.LongWays

Paths of any length to one directory: they go into it and out again some times
before they stay.  At the end of one that is just short enough there are names
that cannot be asked about any more.

* `isDirectory?_turning` — where such a path leads;
* `reaches_turning_iff` — the names at its end that an operation takes.
-/

namespace StringCatalog.FileTree

/-- The names on a way that goes into a directory and out again some times before it stays. -/
def turns (name : String) : Nat → List String
  | 0 => [name]
  | n + 1 => name :: ".." :: turns name n

/-- That way as a path from the working directory. -/
def turning (name : String) (n : Nat) : Path := ⟨.relative, turns name n⟩

variable {t : FileTree} {name : String} {n : Nat}

theorem turns_ne_nil : turns name n ≠ [] := by
  cases n <;> exact List.cons_ne_nil _ _

theorem text_turning : (turning name n).text = "/".intercalate (turns name n) := by
  simp [turning, Path.text, Anchor.text, turns_ne_nil]

/-- A name behind a turning way stands behind a slash. -/
theorem text_entry_turning (e : String) :
    ((turning name n).entry e).text = (turning name n).text ++ ("/" ++ e) := by
  rw [text_turning, turning, Path.entry, Path.text,
    String.intercalate_append_of_ne_nil turns_ne_nil (List.cons_ne_nil _ _)]
  simp [Anchor.text, String.append_assoc]

/-- Each turn puts the name, two dots and two slashes in front of the text. -/
theorem text_turning_succ :
    (turning name (n + 1)).text = name ++ "/../" ++ (turning name n).text := by
  have hslashes : "/../" = "/" ++ ".." ++ "/" := rfl
  rw [text_turning, text_turning, turns, String.intercalate_cons_cons,
    String.intercalate_cons_of_ne_nil turns_ne_nil, hslashes]
  simp only [String.append_assoc]

/-- The size of a turning way: four bytes and the name for every turn, and the name at the end. -/
theorem utf8ByteSize_turning :
    (turning name n).text.utf8ByteSize = (name.utf8ByteSize + 4) * n + name.utf8ByteSize := by
  induction n with
  | zero =>
      have htext : (turning name 0).text = name := by
        rw [text_turning, turns, String.intercalate_singleton]
      rw [htext, Nat.mul_zero, Nat.zero_add]
  | succ n ih =>
      have hturn : "/../".utf8ByteSize = 4 := rfl
      rw [text_turning_succ, String.utf8ByteSize_append, String.utf8ByteSize_append, ih, hturn,
        Nat.mul_succ]
      omega

theorem null_not_mem_turning (h : '\x00' ∉ name.toList) :
    '\x00' ∉ (turning name n).text.toList := by
  induction n with
  | zero =>
      rw [text_turning, turns, String.intercalate_singleton]
      exact h
  | succ n ih =>
      rw [text_turning_succ, String.toList_append, String.toList_append, List.mem_append,
        List.mem_append]
      rintro ((hmem | hmem) | hmem)
      · exact h hmem
      · exact absurd hmem (by decide)
      · exact ih hmem

/-- The turns lead in and out of a directory, and end in it. -/
theorem walk_turns (hdots : name ≠ "..") (hsize : name.utf8ByteSize ≤ maxNameBytes)
    (hdir : t.entryAt [name] = some .directory) : t.walk [] (turns name n) = .ok [name] := by
  have hfollow : follow [] name = [name] := by rw [follow, if_neg hdots, List.nil_append]
  induction n with
  | zero =>
      rw [turns, walk_cons_eq_ok, hfollow]
      exact ⟨rfl, hsize, rfl⟩
  | succ n ih =>
      have hsize' : "..".utf8ByteSize ≤ maxNameBytes := by decide
      rw [turns, walk_cons_eq_ok, hfollow, walk_cons_eq_ok]
      exact ⟨rfl, hsize, hdir, hsize', ih⟩

/-- **A turning path** leads into its directory, as far as it is short enough. -/
theorem isDirectory?_turning (hwork : t.workingDir = []) (hdots : name ≠ "..")
    (hnull : '\x00' ∉ name.toList) (hsize : name.utf8ByteSize ≤ maxNameBytes)
    (hdir : t.entryAt [name] = some .directory)
    (hlength : (name.utf8ByteSize + 4) * n + name.utf8ByteSize ≤ maxPathBytes) :
    t.isDirectory? (turning name n) = .ok true ∧ t.target (turning name n) = [name] := by
  have hstart : t.start (turning name n) = [] := hwork
  have hwalk : t.walk (t.start (turning name n)) (turns name n) = .ok [name] := by
    rw [hstart]
    exact walk_turns hdots hsize hdir
  have htarget : t.target (turning name n) = [name] := (eq_foldl_of_walk hwalk).symm
  have hfits : Fits (turning name n) :=
    ⟨null_not_mem_turning hnull, by rwa [utf8ByteSize_turning]⟩
  refine ⟨isDirectory?_eq_true.2 ?_, htarget⟩
  rw [htarget]
  exact ⟨locate_eq_ok.2 ⟨hfits, hwalk⟩, hdir⟩

theorem null_not_mem_entry_turning {e : String} (hnull : '\x00' ∉ name.toList)
    (hnull' : '\x00' ∉ e.toList) : '\x00' ∉ ((turning name n).entry e).text.toList := by
  rw [text_entry_turning, String.toList_append, String.toList_append, List.mem_append,
    List.mem_append]
  rintro (hmem | hmem | hmem)
  · exact null_not_mem_turning hnull hmem
  · exact absurd hmem (by decide)
  · exact hnull' hmem

/-- The names at the end of a turning path that an operation takes. -/
theorem reaches_turning_iff {e : String} (hnull : '\x00' ∉ name.toList)
    (hnull' : '\x00' ∉ e.toList) :
    Reaches (turning name n) e ↔
      (name.utf8ByteSize + 4) * n + name.utf8ByteSize + 1 + e.utf8ByteSize ≤ maxPathBytes ∧
        e.utf8ByteSize ≤ maxNameBytes := by
  have hslash : "/".utf8ByteSize = 1 := rfl
  have hlength : ((turning name n).entry e).text.utf8ByteSize =
      (name.utf8ByteSize + 4) * n + name.utf8ByteSize + 1 + e.utf8ByteSize := by
    rw [text_entry_turning, String.utf8ByteSize_append, String.utf8ByteSize_append,
      utf8ByteSize_turning, hslash]
    omega
  rw [← hlength]
  exact ⟨fun h => ⟨h.fits.length_le, h.length_le⟩,
    fun h => ⟨⟨null_not_mem_entry_turning hnull hnull', h.1⟩, h.2⟩⟩

end StringCatalog.FileTree
