import StringCatalog.Proofs.Sources
import StringCatalog.Proofs.StaleModules

/-!
# StringCatalog.Proofs.Overwriting

The steps of writing a package into a directory, whatever is there before:
earlier modules are removed, the directory is made, and modules are written one
after the other until one cannot be.

* `settled` — the bytes of a module after it was written, which are those that
  were there if they read as the module already;
* `writeFile_of_writable`, `writeFile_of_not_writable` — one module;
* `filesEnd_writeFiles` — all modules, up to the first that cannot be written;
* `ends_write` — the four ways in which a write ends;
* `completed_of_ok`, `exists_write_eq_ok_iff` — the one in which it succeeds, and
  when it does (`CanWrite`).
-/

namespace StringCatalog.Package

open FileTree

variable {t t' : FileTree} {dir : Path} {artifacts : Artifacts} {name : String}

/-! ## One file -/

/-- Whether a file can be written under a name: an operation takes the name, and no directory has
it. -/
def Accepts (t : FileTree) (dir : Path) (name : String) : Prop :=
  Reaches dir name ∧ t.entryAt (t.target dir ++ [name]) ≠ some .directory

/-- Whether a module can be written under a name: a file that is there must read as a text to be
compared with the module. -/
structure Writable (t : FileTree) (dir : Path) (name : String) : Prop where
  accepts : Accepts t dir name
  decodable : ∀ content, t.entryAt (t.target dir ++ [name]) = some (.file content) →
    ∃ text, textOf? content = some text

/-- A module can be written over a text. -/
theorem writable_of_text (h : Reaches dir name)
    (htext : ∀ e, t.entryAt (t.target dir ++ [name]) = some e → ∃ s : String, e = .file s.toUTF8) :
    Writable t dir name := by
  refine ⟨⟨h, fun hdir => ?_⟩, fun content hfile => ?_⟩
  · obtain ⟨s, hs⟩ := htext _ hdir
    cases hs
  · obtain ⟨s, hs⟩ := htext _ hfile
    rw [FileEntry.file.inj hs, textOf?, fromUTF8?_toUTF8]
    exact ⟨_, rfl⟩

/-- What is reported of a file that reads as it should already. -/
def unchanged (dir : Path) (name : String) : Record :=
  report .debug ("Unchanged " ++ (dir.entry name).text)

def wrote (dir : Path) (name : String) : Record := report .info ("Wrote " ++ (dir.entry name).text)

/-- Whether there is a file that reads as a text. -/
def reads (source : String) : Option FileEntry → Bool
  | some (.file content) => textOf? content = some source
  | _ => false

/-- The bytes of a module after it was written where something was or was not before. -/
def settled (source : String) : Option FileEntry → ByteArray
  | some (.file content) => if textOf? content = some source then content else source.toUTF8
  | _ => source.toUTF8

/-- What is reported of writing a module where something was or was not before. -/
def reported (dir : Path) (name source : String) (old : Option FileEntry) : Record :=
  if reads source old then unchanged dir name else wrote dir name

/-- A place reads as a source if there is a file whose text that is. -/
theorem reads_eq_true_iff {source : String} {old : Option FileEntry} :
    reads source old = true ↔ ∃ content, old = some (.file content) ∧ textOf? content = some source := by
  unfold reads
  split
  · simp
  · next hnot =>
    refine iff_of_false nofun ?_
    rintro ⟨content, rfl, -⟩
    exact hnot content rfl

/-- A file that reads as the source keeps its bytes. -/
theorem settled_of_reads {source : String} {content : ByteArray}
    (h : textOf? content = some source) : settled source (some (.file content)) = content :=
  if_pos h

/-- Anything else gives way to the bytes of the source. -/
theorem settled_of_not_reads {source : String} {old : Option FileEntry}
    (h : reads source old = false) : settled source old = source.toUTF8 := by
  unfold settled
  split
  · next content =>
    rw [reads, decide_eq_false_iff_not] at h
    exact if_neg h
  · rfl

/-- What is there after a module was written reads as the module. -/
theorem textOf?_settled {source : String} (h : IsModuleSource source) (old : Option FileEntry) :
    textOf? (settled source old) = some source := by
  cases hreads : reads source old with
  | false => rw [settled_of_not_reads hreads, textOf?_toUTF8 h]
  | true =>
      obtain ⟨content, rfl, htext⟩ := reads_eq_true_iff.1 hreads
      rw [settled_of_reads htext, htext]

/-- A missing file is not unchanged. -/
theorem isUnchanged_of_none {p : Path} {loc : Location} (source : String)
    (hlocate : t.locate p = .ok loc) (hentry : t.entryAt loc = none) :
    isUnchanged t p source = .ok false := by
  have hfind : t.find p = .error .notFound := by
    rw [FileTree.find, hlocate]
    simp [bind, Except.bind, hentry]
  rw [isUnchanged, isFile?, test, hfind]

/-- A file is unchanged if its text is the source. -/
theorem isUnchanged_of_file {p : Path} {loc : Location} {content : ByteArray} (source : String)
    (hlocate : t.locate p = .ok loc) (hentry : t.entryAt loc = some (.file content)) :
    isUnchanged t p source = match textOf? content with
      | some text => .ok (text == source)
      | none => .error .undecodable := by
  have hfind : t.find p = .ok (.file content) := find_eq_ok.2 ⟨loc, hlocate, hentry⟩
  have hread : t.read p = .ok content := read_eq_ok.2 ⟨loc, hlocate, hentry⟩
  rw [isUnchanged, isFile?, test, hfind]
  dsimp only
  rw [readText, hread]
  simp only [bind, Except.bind]
  cases textOf? content <;> rfl

theorem write_eq_ok {p : Path} {loc : Location} (hlocate : t.locate p = .ok loc)
    (hnot : t.entryAt loc ≠ some .directory) (content : ByteArray) :
    t.write p content = .ok (t.put loc (.file content)) := by
  rw [FileTree.write, hlocate]
  simp only [bind, Except.bind]

/-- A file that has changed is written, and the log says so. -/
theorem writeFile_of_changed {p : Path} {source : String} (h : isUnchanged t p source = .ok false)
    (hwrite : t.write p source.toUTF8 = .ok t') :
    writeFile t p source = .ok (t', report .info ("Wrote " ++ p.text)) := by
  rw [writeFile, h]
  dsimp only
  rw [hwrite]

/-- **Writing one module** succeeds where it can be written; then the module is there, and nothing
else has changed. -/
theorem writeFile_of_writable (hdir : t.isDirectory? dir = .ok true) (hname : name ≠ "..")
    (source : String) (h : Writable t dir name) :
    let old := t.entryAt (t.target dir ++ [name])
    ∃ t', writeFile t (dir.entry name) source = .ok (t', reported dir name source old) ∧
      Updates t t' (t.target dir ++ [name]) (some (.file (settled source old))) ∧
      (reads source old = true → t' = t) := by
  intro old
  have hlocate := (locate_entry hdir hname).2 ⟨h.accepts.1, rfl⟩
  have hwrite := write_eq_ok hlocate h.accepts.2 source.toUTF8
  cases hreads : reads source old with
  | true =>
      obtain ⟨content, hold, htext⟩ := reads_eq_true_iff.1 hreads
      have hsame : isUnchanged t (dir.entry name) source = .ok true := by
        rw [isUnchanged_of_file source hlocate hold, htext]
        simp
      refine ⟨t, ?_, updates_self ?_, fun _ => rfl⟩
      · rw [writeFile, hsame, reported, if_pos hreads]
        rfl
      · rw [hold, settled_of_reads htext]
        exact hold
  | false =>
      have hchanged : isUnchanged t (dir.entry name) source = .ok false := by
        cases hentry : t.entryAt (t.target dir ++ [name]) with
        | none => exact isUnchanged_of_none source hlocate hentry
        | some e =>
            cases e with
            | directory => exact absurd hentry h.accepts.2
            | file content =>
                obtain ⟨text, htext⟩ := h.decodable content hentry
                have hne : text ≠ source := by
                  rintro rfl
                  rw [reads_eq_true_iff.2 ⟨content, hentry, htext⟩] at hreads
                  cases hreads
                rw [isUnchanged_of_file source hlocate hentry, htext]
                simpa using hne
      refine ⟨t.put (t.target dir ++ [name]) (.file source.toUTF8), ?_, ?_, nofun⟩
      · rw [writeFile_of_changed hchanged hwrite, reported, hreads]
        rfl
      · rw [settled_of_not_reads hreads]
        exact updates_put (by simp) _

/-- Writing a file fails where its place does not accept one. -/
theorem writeFile_of_not_accepts (hdir : t.isDirectory? dir = .ok true) (hname : name ≠ "..")
    (source : String) (hnot : ¬ Accepts t dir name) :
    ∃ e, writeFile t (dir.entry name) source = .error e := by
  cases hlocate : t.locate (dir.entry name) with
  | ok loc =>
      obtain ⟨hreaches, rfl⟩ := (locate_entry hdir hname).1 hlocate
      have hentry : t.entryAt (t.target dir ++ [name]) = some .directory :=
        Classical.not_not.1 fun hnot' => hnot ⟨hreaches, hnot'⟩
      have hfind : t.find (dir.entry name) = .ok .directory := find_eq_ok.2 ⟨_, hlocate, hentry⟩
      have hwrite : t.write (dir.entry name) source.toUTF8 = .error .isADirectory := by
        rw [FileTree.write, hlocate]
        simp [bind, Except.bind, hentry]
      refine ⟨.isADirectory, ?_⟩
      rw [writeFile, isUnchanged, isFile?, test, hfind]
      dsimp only
      rw [hwrite]
  | error e =>
      have hfind : t.find (dir.entry name) = .error e := by
        rw [FileTree.find, hlocate]
        rfl
      have hwrite : t.write (dir.entry name) source.toUTF8 = .error e := by
        rw [FileTree.write, hlocate]
        rfl
      have hunchanged : isUnchanged t (dir.entry name) source = .error e ∨
          isUnchanged t (dir.entry name) source = .ok false := by
        rw [isUnchanged, isFile?, test, hfind]
        cases e <;> simp
      refine ⟨e, ?_⟩
      rcases hunchanged with hunchanged | hunchanged
      · rw [writeFile, hunchanged]
      · rw [writeFile, hunchanged]
        dsimp only
        rw [hwrite]

/-- Where a module cannot be written, writing it fails. -/
theorem writeFile_of_not_writable (hdir : t.isDirectory? dir = .ok true) (hname : name ≠ "..")
    (source : String) (hnot : ¬ Writable t dir name) :
    ∃ e, writeFile t (dir.entry name) source = .error e := by
  by_cases haccepts : Accepts t dir name
  · -- a file is there that does not read as a text
    obtain ⟨content, hentry, htext⟩ : ∃ content,
        t.entryAt (t.target dir ++ [name]) = some (.file content) ∧ textOf? content = none := by
      refine Classical.byContradiction fun hnone => hnot ⟨haccepts, fun content hentry => ?_⟩
      cases htext : textOf? content with
      | none => exact absurd ⟨content, hentry, htext⟩ hnone
      | some text => exact ⟨text, rfl⟩
    have hlocate := (locate_entry hdir hname).2 ⟨haccepts.1, rfl⟩
    refine ⟨.undecodable, ?_⟩
    rw [writeFile, isUnchanged_of_file source hlocate hentry, htext]
  · exact writeFile_of_not_accepts hdir hname source haccepts

/-! ## All files -/

/-- A place that accepts a file after directories were kept did so before. -/
theorem Accepts.of_keeps (haccepts : Accepts t' dir name) (hkeeps : Keeps t t') :
    Accepts t dir name := by
  refine ⟨haccepts.1, fun hentry => haccepts.2 ?_⟩
  rw [hkeeps.target]
  exact hkeeps.directories _ hentry

/-- Whether a module can be written depends on what is under its name only. -/
theorem writable_congr (htarget : t'.target dir = t.target dir)
    (hentry : t'.entryAt (t.target dir ++ [name]) = t.entryAt (t.target dir ++ [name])) :
    Writable t' dir name ↔ Writable t dir name := by
  constructor
  · rintro ⟨⟨hreaches, hnot⟩, hdecodable⟩
    rw [htarget, hentry] at hnot hdecodable
    exact ⟨⟨hreaches, hnot⟩, hdecodable⟩
  · rintro ⟨⟨hreaches, hnot⟩, hdecodable⟩
    rw [← hentry, ← htarget] at hnot hdecodable
    exact ⟨⟨hreaches, hnot⟩, hdecodable⟩

/-- `t'` is `t` with modules written. -/
structure Settles (t t' : FileTree) (dir : Path) (done : Artifacts) : Prop where
  wellFormed : t.WellFormed → t'.WellFormed
  keeps : Keeps t t'
  kept : Keeps t' t
  written : ∀ e ∈ done, t'.entryAt (t.target dir ++ [e.1]) =
    some (.file (settled e.2 (t.entryAt (t.target dir ++ [e.1]))))
  others : ∀ x, (∀ e ∈ done, x ≠ t.target dir ++ [e.1]) → t'.entryAt x = t.entryAt x

theorem Settles.refl (t : FileTree) (dir : Path) : Settles t t dir [] :=
  ⟨id, Keeps.refl t, Keeps.refl t, nofun, fun _ _ => rfl⟩

/-- One file settled, and then the others. -/
theorem Settles.cons {t'' : FileTree} {source : String} {done : Artifacts}
    (hdir : t.isDirectory? dir = .ok true)
    (hnot : t.entryAt (t.target dir ++ [name]) ≠ some .directory)
    (hupdates : Updates t t' (t.target dir ++ [name])
      (some (.file (settled source (t.entryAt (t.target dir ++ [name]))))))
    (h : Settles t' t'' dir done) (hname : ∀ e ∈ done, e.1 ≠ name) :
    Settles t t'' dir ((name, source) :: done) := by
  have hkeeps := hupdates.keeps (.inr hnot)
  have htarget := hkeeps.target dir
  have hapart : ∀ e ∈ done, t.target dir ++ [e.1] ≠ t.target dir ++ [name] := fun e he heq =>
    hname e he (name_inj heq)
  have hothers := h.others
  have hwritten := h.written
  rw [htarget] at hothers hwritten
  refine ⟨fun hwf => h.wellFormed
      (hupdates.wellFormed hwf (.inr hnot) rfl (isDirectory?_eq_true.1 hdir).2),
    hkeeps.trans h.keeps, h.kept.trans (hupdates.kept nofun),
    List.forall_mem_cons.2 ⟨?_, fun e he => ?_⟩, fun x hx => ?_⟩
  · rw [hothers _ fun e he => (hapart e he).symm, hupdates.entryAt, if_pos rfl]
  · rw [hwritten e he, hupdates.entryAt, if_neg (hapart e he)]
  · rw [List.forall_mem_cons] at hx
    rw [hothers x hx.2, hupdates.entryAt, if_neg hx.1]

def reports (t : FileTree) (dir : Path) (done : Artifacts) : Log :=
  done.map fun e => reported dir e.1 e.2 (t.entryAt (t.target dir ++ [e.1]))

/-- The reports depend only on what is at the places of the artifacts. -/
theorem reports_congr {done : Artifacts} (htarget : t'.target dir = t.target dir)
    (h : ∀ e ∈ done, t'.entryAt (t.target dir ++ [e.1]) = t.entryAt (t.target dir ++ [e.1])) :
    reports t' dir done = reports t dir done := by
  refine List.map_congr_left fun e he => ?_
  rw [htarget, h e he]

/-- How the writing of modules ends: all of them are written, or those before one that cannot be. -/
inductive FilesEnd (t : FileTree) (dir : Path) (artifacts : Artifacts) (w : Written) : Prop where
  | completed (hall : ∀ e ∈ artifacts, Writable t dir e.1)
      (houtcome : w.outcome = .ok (artifacts.map fun e => dir.entry e.1))
      (hsettles : Settles t w.tree dir artifacts) (hlog : w.log = reports t dir artifacts)
  | stopped {done rest : Artifacts} {a : String × String} (heq : artifacts = done ++ a :: rest)
      (hdone : ∀ e ∈ done, Writable t dir e.1) (ha : ¬ Writable t dir a.1)
      (houtcome : ∃ e, w.outcome = .error e) (hsettles : Settles t w.tree dir done)
      (hlog : w.log = reports t dir done)

/-- **Writing modules one after the other** ends in one of these ways. -/
theorem filesEnd_writeFiles (hdir : t.isDirectory? dir = .ok true)
    (hmodules : ∀ e ∈ artifacts, isModuleFile e.1 = true) (hnodup : artifacts.keys.Nodup) :
    FilesEnd t dir artifacts (writeFiles t dir artifacts) := by
  induction artifacts generalizing t with
  | nil => exact .completed nofun rfl (Settles.refl t dir) rfl
  | cons e artifacts ih =>
      obtain ⟨name, source⟩ := e
      rw [List.forall_mem_cons] at hmodules
      have hname := ne_dots_of_isModuleFile hmodules.1
      obtain ⟨hfresh, hnodup'⟩ : name ∉ OrderedMap.keys artifacts ∧ (OrderedMap.keys artifacts).Nodup :=
        List.nodup_cons.1 hnodup
      have hapart : ∀ e ∈ artifacts, e.1 ≠ name := fun e he heq =>
        hfresh (heq ▸ List.mem_map_of_mem he)
      by_cases hwritable : Writable t dir name
      · obtain ⟨t', hwrite, hupdates, -⟩ := writeFile_of_writable hdir hname source hwritable
        have hnot := hwritable.accepts.2
        have hkeeps := hupdates.keeps (.inr hnot)
        have htarget := hkeeps.target dir
        -- the modules that follow have other names
        have hsame : ∀ e ∈ artifacts,
            t'.entryAt (t.target dir ++ [e.1]) = t.entryAt (t.target dir ++ [e.1]) := by
          intro e he
          rw [hupdates.entryAt, if_neg]
          exact fun heq => hapart e he (name_inj heq)
        have hcongr : ∀ e ∈ artifacts, Writable t' dir e.1 ↔ Writable t dir e.1 :=
          fun e he => writable_congr htarget (hsame e he)
        have hreports : ∀ done, (∀ e ∈ done, e ∈ artifacts) →
            reports t' dir done = reports t dir done :=
          fun done hdone => reports_congr htarget fun e he => hsame e (hdone e he)
        rw [writeFiles, hwrite]
        cases ih (hkeeps.isDirectory? hdir) hmodules.2 hnodup' with
        | completed hall houtcome hsettles hlog =>
            refine .completed (List.forall_mem_cons.2 ⟨hwritable, fun e he =>
              (hcongr e he).1 (hall e he)⟩) ?_ (hsettles.cons hdir hnot hupdates hapart) ?_
            · dsimp only
              rw [houtcome]
              rfl
            · dsimp only
              rw [hlog, hreports artifacts fun _ => id]
              rfl
        | @stopped done rest a heq hdone ha houtcome hsettles hlog =>
            subst heq
            have hmem : ∀ e ∈ done, e ∈ done ++ a :: rest := fun e => List.mem_append_left _
            have hsplit : (name, source) :: (done ++ a :: rest) =
                ((name, source) :: done) ++ a :: rest := rfl
            refine .stopped hsplit
              (List.forall_mem_cons.2 ⟨hwritable, fun e he => (hcongr e (hmem e he)).1 (hdone e he)⟩)
              (fun ha' => ha ((hcongr a (by simp)).2 ha')) ?_
              (hsettles.cons hdir hnot hupdates fun e he => hapart e (hmem e he)) ?_
            · obtain ⟨e, he⟩ := houtcome
              exact ⟨e, by dsimp only; rw [he]; rfl⟩
            · dsimp only
              rw [hlog, hreports done hmem]
              rfl
      · obtain ⟨e, hwrite⟩ := writeFile_of_not_writable hdir hname source hwritable
        rw [writeFiles, hwrite]
        have hsplit : (name, source) :: artifacts = [] ++ (name, source) :: artifacts := rfl
        exact .stopped hsplit nofun hwritable ⟨e, rfl⟩ (Settles.refl t dir) rfl

/-! ## A package -/

def made (t : FileTree) (dir : Path) : FileTree := (t.makeDirs dir).1

theorem made_of_isDirectory? (h : t.isDirectory? dir = .ok true) : made t dir = t := by
  rw [made, makeDirs_of_isDirectory? h]

/-- Making the directory extends the tree on the way there. -/
theorem extends_made (hwf : t.WellFormed) (dir : Path) : Extends t (made t dir) dir :=
  (makeDirs_spec hwf).1

/-- Making the directory does not change where it is. -/
theorem target_made (hwf : t.WellFormed) (dir : Path) : (made t dir).target dir = t.target dir :=
  (extends_made hwf dir).keeps.target dir

/-- The directory is there once it was made. -/
theorem isDirectory?_made (hwf : t.WellFormed) (hcan : CanMake t dir) :
    (made t dir).isDirectory? dir = .ok true :=
  (makeDirs_spec hwf).2 ((makeDirs_eq_ok_iff hwf).2 hcan)

def removed (dir : Path) (name : String) : Record :=
  report .info ("Removed stale " ++ (dir.entry name).text)

/-- `t'` is `t` with a directory made and without the earlier modules in it. -/
structure Clears (t t' : FileTree) (dir : Path) (artifacts : Artifacts) : Prop where
  isDirectory : t'.isDirectory? dir = .ok true
  keeps : Keeps (made t dir) t'
  kept : Keeps t' (made t dir)
  removed : ∀ name, Stale t dir artifacts name → t'.entryAt (t.target dir ++ [name]) = none
  others : ∀ x, (∀ name, Stale t dir artifacts name → x ≠ t.target dir ++ [name]) →
    t'.entryAt x = (made t dir).entryAt x

/-- Where nothing blocks the search and the directory can be made, stale modules go and the
directory comes. -/
theorem clears_makeDirs (hwf : t.WellFormed) (hcan : CanMake t dir)
    (hfree : ∀ b, ¬ Blocks t dir artifacts b) :
    ∃ t', (removeAll t dir (staleNames t artifacts dir).1).makeDirs dir = (t', .ok ()) ∧
      Clears t t' dir artifacts := by
  have hmem : ∀ name, name ∈ (staleNames t artifacts dir).1 ↔ Stale t dir artifacts name :=
    fun _ => mem_staleNames_iff.trans (found_iff hfree)
  by_cases hdir : t.isDirectory? dir = .ok true
  · have hremoves := removes_staleNames hwf artifacts dir
    have hdir' := hremoves.keeps.isDirectory? hdir
    refine ⟨_, makeDirs_of_isDirectory? hdir', hdir', ?_, ?_, fun name hname => ?_, fun x hx => ?_⟩
    · rw [made_of_isDirectory? hdir]
      exact hremoves.keeps
    · rw [made_of_isDirectory? hdir]
      exact hremoves.kept
    · rw [hremoves.entryAt, if_pos ⟨name, (hmem name).2 hname, rfl⟩]
    · rw [hremoves.entryAt, if_neg, made_of_isDirectory? hdir]
      rintro ⟨name, hname, rfl⟩
      exact hx name ((hmem name).1 hname) rfl
  · -- where there is no directory there is nothing to remove
    have hok := (makeDirs_eq_ok_iff hwf).2 hcan
    rw [staleNames_of_not_isDirectory? hdir]
    exact ⟨made t dir, Prod.ext rfl hok, (makeDirs_spec hwf).2 hok, Keeps.refl _, Keeps.refl _,
      fun name h => absurd h.isDirectory hdir, fun _ _ => rfl⟩

/-- `t'` is `t` with the directory made, earlier modules removed and modules written. -/
structure Overwrites (t t' : FileTree) (dir : Path) (artifacts done : Artifacts) : Prop where
  keeps : Keeps (made t dir) t'
  kept : Keeps t' (made t dir)
  written : ∀ e ∈ done, t'.entryAt (t.target dir ++ [e.1]) =
    some (.file (settled e.2 (t.entryAt (t.target dir ++ [e.1]))))
  removed : ∀ name, Stale t dir artifacts name → t'.entryAt (t.target dir ++ [name]) = none
  others : ∀ x, (∀ e ∈ done, x ≠ t.target dir ++ [e.1]) →
    (∀ name, Stale t dir artifacts name → x ≠ t.target dir ++ [name]) →
    t'.entryAt x = (made t dir).entryAt x

/-- What a module becomes depends on the file that was there only. -/
theorem settled_congr (source : String) {old old' : Option FileEntry}
    (h : ∀ content, old = some (.file content) ↔ old' = some (.file content)) :
    settled source old = settled source old' := by
  cases old with
  | none => cases old' with
    | none => rfl
    | some e => cases e with
      | file content => cases (h content).2 rfl
      | directory => rfl
  | some e => cases e with
    | file content => rw [(h content).1 rfl]
    | directory => cases old' with
      | none => rfl
      | some e => cases e with
        | file content => cases (h content).2 rfl
        | directory => rfl

/-- No artifact has the name of a stale module. -/
theorem Stale.name_ne (h : Stale t dir artifacts name) : ∀ e ∈ artifacts, e.1 ≠ name := by
  rintro e he rfl
  exact OrderedMap.has_eq_false_iff.1 h.not_artifact (List.mem_map_of_mem he)

/-- Clearing leaves the places of the artifacts alone. -/
theorem Clears.entryAt_artifact (h : Clears t t' dir artifacts) :
    ∀ e ∈ artifacts, t'.entryAt (t.target dir ++ [e.1]) =
      (made t dir).entryAt (t.target dir ++ [e.1]) :=
  fun e he => h.others _ fun _ hstale heq =>
    hstale.name_ne e he (name_inj heq)

/-- Clearing first and settling the files then is to overwrite them. -/
theorem Clears.overwrites {t'' : FileTree} {done : Artifacts} (hwf : t.WellFormed)
    (h : Clears t t' dir artifacts) (hdone : ∀ e ∈ done, e ∈ artifacts)
    (hsettles : Settles t' t'' dir done) : Overwrites t t'' dir artifacts done := by
  have hextends := extends_made hwf dir
  have htarget : t'.target dir = t.target dir := (h.keeps.target dir).trans (target_made hwf dir)
  have hwritten := hsettles.written
  have hothers := hsettles.others
  rw [htarget] at hwritten hothers
  refine ⟨h.keeps.trans hsettles.keeps, hsettles.kept.trans h.kept, fun e he => ?_,
    fun name hstale => ?_, fun x hx hstale => ?_⟩
  · have hsettled : settled e.2 ((made t dir).entryAt (t.target dir ++ [e.1])) =
        settled e.2 (t.entryAt (t.target dir ++ [e.1])) := settled_congr e.2 (hextends.files _)
    rw [hwritten e he, h.entryAt_artifact e (hdone e he), hsettled]
  · rw [hothers _ fun e he heq => ?_, h.removed name hstale]
    exact hstale.name_ne e (hdone e he) (name_inj heq).symm
  · rw [hothers x hx, h.others x hstale]

/-- What is reported of a write: every earlier module, and then the modules written. -/
def Reports (t : FileTree) (dir : Path) (artifacts done : Artifacts) (log : Log) : Prop :=
  log = (staleNames t artifacts dir).1.map (removed dir) ++ reports (made t dir) dir done

/-- How a write ends: the directory cannot be made, or the search for earlier modules breaks off, or
all modules are written, or those before one that cannot be. -/
inductive Ends (t : FileTree) (dir : Path) (artifacts : Artifacts) (w : Written) : Prop where
  | refused (hmake : ¬ CanMake t dir) (houtcome : ∃ e, w.outcome = .error e)
      (hextends : Extends t w.tree dir) (hlog : w.log = [])
  | blocked {b : String} (hb : Blocks t dir artifacts b) (houtcome : ∃ e, w.outcome = .error e)
      (htree : Removes t w.tree dir (staleNames t artifacts dir).1)
      (hlog : w.log = (staleNames t artifacts dir).1.map (removed dir))
  | completed (hmake : CanMake t dir) (hfree : ∀ b, ¬ Blocks t dir artifacts b)
      (hall : ∀ e ∈ artifacts, Writable (made t dir) dir e.1)
      (houtcome : w.outcome = .ok (artifacts.map fun e => dir.entry e.1))
      (htree : Overwrites t w.tree dir artifacts artifacts)
      (hlog : Reports t dir artifacts artifacts w.log)
  | stopped {done rest : Artifacts} {a : String × String} (hmake : CanMake t dir)
      (hfree : ∀ b, ¬ Blocks t dir artifacts b)
      (heq : artifacts = done ++ a :: rest) (hdone : ∀ e ∈ done, Writable (made t dir) dir e.1)
      (ha : ¬ Writable (made t dir) dir a.1) (houtcome : ∃ e, w.outcome = .error e)
      (htree : Overwrites t w.tree dir artifacts done) (hlog : Reports t dir artifacts done w.log)

/-- What blocks the search lies in a directory that is there. -/
theorem Blocks.canMake {b : String} (h : Blocks t dir artifacts b) : CanMake t dir :=
  canMake_of_isDirectory? h.isDirectory

/-- How a write ends where the directory cannot be made. -/
theorem ends_of_not_canMake (hwf : t.WellFormed) (hcan : ¬ CanMake t dir) :
    Ends t dir artifacts (write t dir artifacts) := by
  have hnone : (staleNames t artifacts dir).1 = [] :=
    staleNames_of_not_isDirectory? fun hdir => hcan (canMake_of_isDirectory? hdir)
  rw [write, hnone]
  dsimp only [removeAll, List.foldl_nil, List.map_nil]
  cases (staleNames t artifacts dir).2 with
  | error e => exact .refused hcan ⟨e, rfl⟩ (Extends.refl hwf dir) rfl
  | ok u =>
      obtain ⟨hextends, -⟩ := makeDirs_spec hwf (p := dir)
      have hok := makeDirs_eq_ok_iff hwf (p := dir)
      dsimp only
      generalize t.makeDirs dir = result at hextends hok
      obtain ⟨t', outcome⟩ := result
      cases outcome with
      | error e => exact .refused hcan ⟨e, rfl⟩ hextends rfl
      | ok u => exact absurd (hok.1 rfl) hcan

/-- How it ends where the search for stale modules is blocked. -/
theorem ends_of_blocks (hwf : t.WellFormed) {b : String} (hb : Blocks t dir artifacts b) :
    Ends t dir artifacts (write t dir artifacts) := by
  have hremoves := removes_staleNames hwf artifacts dir
  have hsearch : (staleNames t artifacts dir).2 ≠ .ok () :=
    fun h => (staleNames_eq_ok_iff.1 h).2 b hb
  rw [write]
  dsimp only
  cases houtcome : (staleNames t artifacts dir).2 with
  | error e => exact .blocked hb ⟨e, rfl⟩ hremoves rfl
  | ok u => exact absurd houtcome hsearch

/-- How it ends where nothing of that kind is in the way. -/
theorem ends_of_canMake (hwf : t.WellFormed) (hcan : CanMake t dir)
    (hfree : ∀ b, ¬ Blocks t dir artifacts b) (hpackage : IsPackage artifacts) :
    Ends t dir artifacts (write t dir artifacts) := by
  have hsearch := staleNames_eq_ok_iff.2 ⟨hcan.isDirectory?, hfree⟩
  obtain ⟨t', hmake, hclears⟩ := clears_makeDirs hwf hcan hfree
  have hmade := target_made hwf dir
  have hsame := hclears.entryAt_artifact
  rw [← hmade] at hsame
  have hcongr : ∀ e ∈ artifacts, Writable t' dir e.1 ↔ Writable (made t dir) dir e.1 :=
    fun e he => writable_congr (hclears.keeps.target dir) (hsame e he)
  have hreports : ∀ done, (∀ e ∈ done, e ∈ artifacts) →
      reports t' dir done = reports (made t dir) dir done :=
    fun done hdone => reports_congr (hclears.keeps.target dir) fun e he => hsame e (hdone e he)
  rw [write, hsearch]
  dsimp only
  rw [hmake]
  dsimp only
  cases filesEnd_writeFiles hclears.isDirectory hpackage.isModuleFile hpackage.nodup with
  | completed hall houtcome hsettles hlog =>
      refine .completed hcan hfree (fun e he => (hcongr e he).1 (hall e he)) houtcome
        (hclears.overwrites hwf (fun _ => id) hsettles) ?_
      rw [hlog, hreports artifacts fun _ => id]
      rfl
  | @stopped done rest a heq hdone ha houtcome hsettles hlog =>
      have hmem : ∀ e ∈ done, e ∈ artifacts := fun e he => heq ▸ List.mem_append_left _ he
      refine .stopped hcan hfree heq (fun e he => (hcongr e (hmem e he)).1 (hdone e he))
        (fun ha' => ha ((hcongr a (by simp [heq])).2 ha')) houtcome
        (hclears.overwrites hwf hmem hsettles) ?_
      rw [hlog, hreports done hmem]
      rfl

/-- **Writing a package** ends in one of these ways. -/
theorem ends_write (dir : Path) (hwf : t.WellFormed) (hpackage : IsPackage artifacts) :
    Ends t dir artifacts (write t dir artifacts) := by
  by_cases hcan : CanMake t dir
  · by_cases hblocks : ∃ b, Blocks t dir artifacts b
    · exact ends_of_blocks hwf hblocks.choose_spec
    · exact ends_of_canMake hwf hcan (not_exists.1 hblocks) hpackage
  · exact ends_of_not_canMake hwf hcan

/-- Whether a package can be written: the directory can be made, nothing in it breaks off the search
for earlier modules, and every module can be written. -/
structure CanWrite (t : FileTree) (dir : Path) (artifacts : Artifacts) : Prop where
  canMake : CanMake t dir
  not_blocks : ∀ b, ¬ Blocks t dir artifacts b
  writable : ∀ e ∈ artifacts, Writable (made t dir) dir e.1

/-- What a write that succeeds has come to. -/
structure Completed (t : FileTree) (dir : Path) (artifacts : Artifacts) (w : Written) : Prop
    extends CanWrite t dir artifacts where
  tree : Overwrites t w.tree dir artifacts artifacts
  log : Reports t dir artifacts artifacts w.log

/-- A package can be written over texts. -/
theorem canWrite_of_texts (hdir : t.isDirectory? dir = .ok true)
    (hfree : ∀ b, ¬ Blocks t dir artifacts b) (hreaches : ∀ e ∈ artifacts, Reaches dir e.1)
    (htexts : ∀ name e, t.entryAt (t.target dir ++ [name]) = some e →
      ∃ s : String, e = .file s.toUTF8) : CanWrite t dir artifacts where
  canMake := canMake_of_isDirectory? hdir
  not_blocks := hfree
  writable := by
    rw [made_of_isDirectory? hdir]
    exact fun e he => writable_of_text (hreaches e he) (htexts e.1)

/-- Where a package can be written, its files are within reach. -/
theorem CanWrite.reaches (h : CanWrite t dir artifacts) : ∀ e ∈ artifacts, Reaches dir e.1 :=
  fun e he => (h.writable e he).accepts.1

/-- A write that succeeds is a completed one. -/
theorem completed_of_ok (hwf : t.WellFormed) (hpackage : IsPackage artifacts) {paths : List Path}
    (h : (write t dir artifacts).outcome = .ok paths) :
    Completed t dir artifacts (write t dir artifacts) := by
  have hfails : ∀ e, (write t dir artifacts).outcome ≠ .error e := by
    rw [h]
    nofun
  cases ends_write dir hwf hpackage with
  | refused _ houtcome => exact absurd houtcome.choose_spec (hfails _)
  | blocked _ houtcome => exact absurd houtcome.choose_spec (hfails _)
  | stopped _ _ _ _ _ houtcome => exact absurd houtcome.choose_spec (hfails _)
  | completed hcan hfree hall _ htree hlog => exact ⟨⟨hcan, hfree, hall⟩, htree, hlog⟩

/-- A write succeeds where the package can be written. -/
theorem CanWrite.outcome_eq_ok (hwf : t.WellFormed) (hpackage : IsPackage artifacts)
    (h : CanWrite t dir artifacts) :
    (write t dir artifacts).outcome = .ok (artifacts.map fun e => dir.entry e.1) := by
  cases ends_write dir hwf hpackage with
  | refused hmake => exact absurd h.canMake hmake
  | blocked hb => exact absurd hb (h.not_blocks _)
  | stopped _ _ heq _ ha => exact absurd (h.writable _ (by simp [heq])) ha
  | completed _ _ _ houtcome => exact houtcome

end StringCatalog.Package
