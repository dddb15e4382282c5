import StringCatalog.Proofs.LongWays
import StringCatalog.Proofs.Rewriting

/-!
# StringCatalog.Proofs.EarlierFiles

Packages written into a directory with files of any kind.  What was there before
shows in two ways: a file that reads as a module already keeps its bytes, and
what cannot be written over stops a write half-way.

* `bytes_of_write` — the bytes of a package that was written;
* `written_or_stopped` — what a write leaves behind when it succeeds and when it
  does not.
-/

namespace StringCatalog.Package

open FileTree Text

variable {t t' : FileTree} {dir : Path} {artifacts done : Artifacts} {e : String × String}

/-! ## Modules that were written -/

theorem Overwrites.isDirectory? (hwf : t.WellFormed) (hcan : CanMake t dir)
    (h : Overwrites t t' dir artifacts done) : t'.isDirectory? dir = .ok true :=
  h.keeps.isDirectory? (isDirectory?_made hwf hcan)

/-- Overwriting files does not change where the directory is. -/
theorem Overwrites.target (hwf : t.WellFormed) (h : Overwrites t t' dir artifacts done) :
    t'.target dir = t.target dir :=
  (h.keeps.target dir).trans (target_made hwf dir)

/-- A module that was written is in its file. -/
theorem Overwrites.read_eq_ok (hwf : t.WellFormed) (hcan : CanMake t dir)
    (h : Overwrites t t' dir artifacts done) (he : e ∈ done) (hreaches : Reaches dir e.1)
    (hname : e.1 ≠ "..") :
    t'.read (dir.entry e.1) = .ok (settled e.2 (t.entryAt (t.target dir ++ [e.1]))) := by
  have htarget := h.target hwf
  refine FileTree.read_eq_ok.2 ⟨_, (locate_entry (h.isDirectory? hwf hcan) hname).2
    ⟨hreaches, rfl⟩, ?_⟩
  rw [htarget, h.written e he]

/-- A file that was overwritten reads as its text. -/
theorem Overwrites.readText_eq_ok (hwf : t.WellFormed) (hcan : CanMake t dir)
    (h : Overwrites t t' dir artifacts done) (he : e ∈ done) (hreaches : Reaches dir e.1)
    (hname : e.1 ≠ "..") (hsource : IsModuleSource e.2) :
    t'.readText (dir.entry e.1) = .ok e.2 := by
  rw [readText, h.read_eq_ok hwf hcan he hreaches hname]
  simp only [bind, Except.bind, textOf?_settled hsource]

section Completed

variable {w : Written} (hwf : t.WellFormed) (hpackage : IsPackage artifacts)
  (h : Completed t dir artifacts w) (he : e ∈ artifacts)
include hwf hpackage h he

/-- After a completed write each artifact has the bytes that it settled on. -/
theorem Completed.read_eq_ok :
    w.tree.read (dir.entry e.1) = .ok (settled e.2 (t.entryAt (t.target dir ++ [e.1]))) :=
  h.tree.read_eq_ok hwf h.canMake he (h.reaches e he)
    (ne_dots_of_isModuleFile (hpackage.isModuleFile e he))

/-- And it reads as its text. -/
theorem Completed.readText_eq_ok : w.tree.readText (dir.entry e.1) = .ok e.2 :=
  h.tree.readText_eq_ok hwf h.canMake he (h.reaches e he)
    (ne_dots_of_isModuleFile (hpackage.isModuleFile e he)) (hpackage.isModuleSource e he)

end Completed

/-! ### A package -/

theorem formattedString_mem_artifacts {m : Model} (h : m.WellNamed) :
    (formattedStringFile, formattedStringSource) ∈ Package.artifacts m := by
  rw [artifacts_eq h]
  simp

/-- The package of two locales, whose names can all be written. -/
theorem package_twoLocales :
    ∃ c, (Compilation.compile twoLocales resSettings).1 = .ok c ∧ c.model.IsCompiled ∧
      (∀ e ∈ Package.artifacts c.model, Reaches genDir e.1) ∧
      ∀ name ∈ (Package.artifacts c.model).keys, name ≠ "strings_old.py" ∧ name ≠ "notes.py" := by
  obtain ⟨c, hc, hkeys⟩ := keys_twoLocales
  exact ⟨c, hc, ⟨twoLocales, resSettings, c, hc, rfl⟩,
    fun e he => ((canHold_twoLocales hkeys).accepts e he).1, by rw [hkeys]; decide⟩

/-- A tree with an earlier module in a directory and two files of other origin, one of them under
the name of a module. -/
def mixedFiles : FileTree where
  workingDir := []
  entries := [
    (["gen"], .directory),
    (["gen", "strings_old.py"], .file (headerLine ++ "\n").toUTF8),
    (["gen", "notes.py"], .file "# kept\n".toUTF8),
    (["gen", faceFile], .file "# mine\n".toUTF8)]

theorem wellFormed_mixedFiles : mixedFiles.WellFormed :=
  wellFormed_of_entries (by decide) rfl

theorem isDirectory?_mixedFiles : mixedFiles.isDirectory? genDir = .ok true := rfl

/-- Nothing in that tree can block a write. -/
theorem not_blocks_mixedFiles : ∀ b, ¬ Blocks mixedFiles genDir artifacts b :=
  not_blocks_of_entries (by decide)

/-- What lies in that directory. -/
theorem entryAt_mixedFiles {name : String} {e : FileEntry}
    (h : mixedFiles.entryAt ["gen", name] = some e) :
    name = "strings_old.py" ∧ e = .file (headerLine ++ "\n").toUTF8 ∨
      name = "notes.py" ∧ e = .file "# kept\n".toUTF8 ∨
      name = faceFile ∧ e = .file "# mine\n".toUTF8 := by
  have hmem : (["gen", name], e) ∈ mixedFiles.entries := OrderedMap.mem_of_get? h
  simpa [mixedFiles] using hmem

/-- The package of two locales is written over them. -/
theorem write_mixedFiles :
    ∃ c, (Compilation.compile twoLocales resSettings).1 = .ok c ∧ c.model.IsCompiled ∧
      (∀ name ∈ (Package.artifacts c.model).keys, name ≠ "strings_old.py" ∧ name ≠ "notes.py") ∧
      ∃ paths, (write mixedFiles genDir (Package.artifacts c.model)).outcome = .ok paths := by
  obtain ⟨c, hc, hcompiled, hreaches, hnames⟩ := package_twoLocales
  have hcan : CanWrite mixedFiles genDir (Package.artifacts c.model) :=
    canWrite_of_texts isDirectory?_mixedFiles not_blocks_mixedFiles hreaches fun name e he => by
      rcases entryAt_mixedFiles he with ⟨-, rfl⟩ | ⟨-, rfl⟩ | ⟨-, rfl⟩ <;> exact ⟨_, rfl⟩
  exact ⟨c, hc, hcompiled, hnames, _,
    hcan.outcome_eq_ok wellFormed_mixedFiles (isPackage_artifacts hcompiled.wellNamed)⟩

/-! ## Bytes -/

/-- Whether a file is there that reads as a module and has other bytes: its line ends differ. -/
def Respelled (t : FileTree) (dir : Path) (e : String × String) (content : ByteArray) : Prop :=
  t.entryAt (t.target dir ++ [e.1]) = some (.file content) ∧ textOf? content = some e.2 ∧
    content ≠ e.2.toUTF8

/-- A file that reads the same with other line ends keeps its bytes. -/
theorem settled_of_respelled {content : ByteArray} (h : Respelled t dir e content) :
    settled e.2 (t.entryAt (t.target dir ++ [e.1])) = content := by
  rw [h.1, settled_of_reads h.2.1]

/-- Any other gets the bytes of the text. -/
theorem settled_of_not_respelled (h : ∀ content, ¬ Respelled t dir e content) :
    settled e.2 (t.entryAt (t.target dir ++ [e.1])) = e.2.toUTF8 := by
  cases hreads : reads e.2 (t.entryAt (t.target dir ++ [e.1])) with
  | false => exact settled_of_not_reads hreads
  | true =>
      obtain ⟨content, hfile, htext⟩ := reads_eq_true_iff.1 hreads
      rw [hfile, settled_of_reads htext]
      exact Classical.byContradiction fun hne => h content ⟨hfile, htext, hne⟩

/-- **The bytes of a package that was written** are those of its sources, but for files that read as
their sources before with other line ends. -/
theorem bytes_of_write (hwf : t.WellFormed) {m : Model} (hm : m.IsCompiled) {paths : List Path}
    (h : (write t dir (Package.artifacts m)).outcome = .ok paths) :
    paths = (Package.artifacts m).map (fun e => dir.entry e.1) ∧
      ∀ e ∈ Package.artifacts m,
        (write t dir (Package.artifacts m)).tree.readText (dir.entry e.1) = .ok e.2 ∧
        ((∀ content, ¬ Respelled t dir e content) →
          (write t dir (Package.artifacts m)).tree.read (dir.entry e.1) = .ok e.2.toUTF8) ∧
        ∀ content, Respelled t dir e content →
          (write t dir (Package.artifacts m)).tree.read (dir.entry e.1) = .ok content := by
  have hpackage := isPackage_artifacts hm.wellNamed
  have hdone := completed_of_ok hwf hpackage h
  have houtcome := hdone.toCanWrite.outcome_eq_ok hwf hpackage
  refine ⟨Except.ok.inj (h.symm.trans houtcome), fun e he => ?_⟩
  rw [hdone.read_eq_ok hwf hpackage he]
  exact ⟨hdone.readText_eq_ok hwf hpackage he,
    fun hnot => congrArg _ (settled_of_not_respelled hnot),
    fun content hcontent => congrArg _ (settled_of_respelled hcontent)⟩

/-- A text that does not begin like a module reads as none. -/
theorem not_textOf?_of_head {text : String} {content : ByteArray} {e : String × String}
    (hsource : IsModuleSource e.2) (h : textOf? content = some text)
    (hhead : ¬ headerLine.toList <+: text.toList) : ¬ Respelled t dir e content := by
  rintro ⟨-, htext, -⟩
  obtain ⟨rest, hrest⟩ := hsource.header
  rw [h, Option.some.injEq] at htext
  rw [htext, hrest] at hhead
  exact hhead (List.prefix_append _ _)

theorem bytes_of_write_mixedFiles :
    ∃ c, (Compilation.compile twoLocales resSettings).1 = .ok c ∧ mixedFiles.WellFormed ∧
      ∃ paths, (write mixedFiles genDir (Package.artifacts c.model)).outcome = .ok paths ∧
        ∀ e ∈ Package.artifacts c.model,
          (write mixedFiles genDir (Package.artifacts c.model)).tree.read (genDir.entry e.1) =
            .ok e.2.toUTF8 := by
  obtain ⟨c, hc, hcompiled, hnames, paths, houtcome⟩ := write_mixedFiles
  obtain ⟨-, hbytes⟩ := bytes_of_write wellFormed_mixedFiles hcompiled houtcome
  refine ⟨c, hc, wellFormed_mixedFiles, paths, houtcome, fun e he => (hbytes e he).2.1 ?_⟩
  intro content hrespelled
  have hname := hnames e.1 (List.mem_map_of_mem he)
  rcases entryAt_mixedFiles hrespelled.1 with ⟨heq, -⟩ | ⟨heq, -⟩ | ⟨-, hmine⟩
  · exact hname.1 heq
  · exact hname.2 heq
  · have hsource := (isPackage_artifacts hcompiled.wellNamed).isModuleSource e he
    have htext : textOf? content = some "# mine\n" := by
      rw [FileEntry.file.inj hmine]
      decide
    exact not_textOf?_of_head hsource htext (by decide) hrespelled

/-! ### Other line ends -/

/-- Characters with a carriage return before every line feed. -/
def withReturns (cs : List Char) : List Char :=
  cs.flatMap fun c => if c = '\n' then ['\r', '\n'] else [c]

/-- Returns at the ends of lines are read away. -/
theorem unifyLineEnds_withReturns {cs : List Char} (h : '\r' ∉ cs) :
    unifyLineEnds (withReturns cs) = cs := by
  induction cs with
  | nil => rfl
  | cons c cs ih =>
      rw [List.mem_cons, not_or] at h
      by_cases hfeed : c = '\n'
      · subst hfeed
        have hcons : withReturns ('\n' :: cs) = '\r' :: '\n' :: withReturns cs := rfl
        rw [hcons, unifyLineEnds, ih h.2]
      · have hcons : withReturns (c :: cs) = c :: withReturns cs := by simp [withReturns, hfeed]
        rw [hcons, unifyLineEnds, ih h.2, if_neg (Ne.symm h.1)]
        rintro _ rfl
        exact absurd rfl h.1

/-- Every module can be spelled otherwise. -/
theorem respelled_withReturns {source : String} (h : IsModuleSource source) :
    textOf? (String.ofList (withReturns source.toList)).toUTF8 = some source ∧
      (String.ofList (withReturns source.toList)).toUTF8 ≠ source.toUTF8 := by
  constructor
  · rw [textOf?, fromUTF8?_toUTF8, Option.map_some, String.toList_ofList,
      unifyLineEnds_withReturns h.no_return, String.ofList_toList]
  · intro heq
    obtain ⟨rest, hrest⟩ := h.header
    have hlist := congrArg String.toList (String.toByteArray_inj.1 heq)
    rw [String.toList_ofList] at hlist
    refine h.no_return ?_
    rw [← hlist, withReturns, List.mem_flatMap]
    exact ⟨'\n', by rw [hrest]; simp, by simp⟩

/-- A tree with one module of a package, in which every line ends with a carriage return and a line
feed. -/
def otherLineEnds : FileTree where
  workingDir := []
  entries := [
    (["gen"], .directory),
    (["gen", formattedStringFile],
      .file (String.ofList (withReturns formattedStringSource.toList)).toUTF8)]

theorem isModuleSource_formattedString : IsModuleSource formattedStringSource :=
  isModuleSource_moduleOf (return_not_mem_fixedLines formattedStringLines (by simp [fixedLines]))

theorem isDirectory?_otherLineEnds : otherLineEnds.isDirectory? genDir = .ok true := rfl

/-- Every package can be written over the module that is there. -/
theorem canWrite_otherLineEnds (h : ∀ e ∈ artifacts, Reaches genDir e.1) :
    CanWrite otherLineEnds genDir artifacts := by
  refine canWrite_of_texts isDirectory?_otherLineEnds (not_blocks_of_entries (by decide)) h
    fun name entry hentry => ?_
  have hmem : (["gen", name], entry) ∈ otherLineEnds.entries := OrderedMap.mem_of_get? hentry
  rw [otherLineEnds, List.mem_cons, List.mem_singleton] at hmem
  rcases hmem with heq | heq
  · exact absurd (Prod.mk.inj heq).1 (by simp)
  · exact ⟨_, (Prod.mk.inj heq).2⟩

/-- A package is written where one of its modules is there with other line ends, which stay. -/
theorem not_bytes_other_line_ends :
    ∃ c, (Compilation.compile twoLocales resSettings).1 = .ok c ∧
      (∃ paths, (write otherLineEnds genDir (Package.artifacts c.model)).outcome = .ok paths) ∧
      ∃ e ∈ Package.artifacts c.model, ∃ content,
        (write otherLineEnds genDir (Package.artifacts c.model)).tree.read (genDir.entry e.1) =
          .ok content ∧ content ≠ e.2.toUTF8 := by
  obtain ⟨c, hc, hcompiled, hreaches, -⟩ := package_twoLocales
  have hpackage := isPackage_artifacts hcompiled.wellNamed
  have hmem := formattedString_mem_artifacts hcompiled.wellNamed
  have hwf : otherLineEnds.WellFormed := wellFormed_of_entries (by decide) rfl
  have hok := (canWrite_otherLineEnds hreaches).outcome_eq_ok hwf hpackage
  have hdone := completed_of_ok hwf hpackage hok
  obtain ⟨htext, hne⟩ := respelled_withReturns isModuleSource_formattedString
  have hrespelled : Respelled otherLineEnds genDir (formattedStringFile, formattedStringSource) _ :=
    ⟨rfl, htext, hne⟩
  refine ⟨c, hc, ⟨_, hok⟩, _, hmem, _, ?_, hne⟩
  rw [hdone.read_eq_ok hwf hpackage hmem, settled_of_respelled hrespelled]

/-! ## Writes that stop -/

/-- A list is split in one way at its first member that fails. -/
theorem split_unique {α : Type} {p : α → Prop} {xs ys l l' : List α} {a b : α}
    (h : xs ++ a :: l = ys ++ b :: l') (hxs : ∀ x ∈ xs, p x) (ha : ¬ p a) (hys : ∀ y ∈ ys, p y)
    (hb : ¬ p b) : xs = ys := by
  induction xs generalizing ys with
  | nil =>
      cases ys with
      | nil => rfl
      | cons y ys =>
          cases h
          exact absurd (hys _ List.mem_cons_self) ha
  | cons x xs ih =>
      rw [List.forall_mem_cons] at hxs
      cases ys with
      | nil =>
          cases h
          exact absurd hxs.1 hb
      | cons y ys =>
          rw [List.forall_mem_cons] at hys
          obtain ⟨rfl, htail⟩ := List.cons.inj h
          rw [ih htail hxs.2 hys.2]

/-- Whether a write has nothing to do before it comes to the modules after `done`: the directory is
there, nothing in it is stale, and `done` reads as it should. -/
structure Idle (t : FileTree) (dir : Path) (artifacts done : Artifacts) : Prop where
  isDirectory : t.isDirectory? dir = .ok true
  not_stale : ∀ name, ¬ Stale t dir artifacts name
  reads : ∀ e ∈ done, reads e.2 (t.entryAt (t.target dir ++ [e.1])) = true

/-- A write leaves everything as it was exactly when it had nothing to do. -/
theorem Overwrites.entryAt_eq_iff (hwf : t.WellFormed) (hcan : CanMake t dir)
    (hsources : ∀ e ∈ done, IsModuleSource e.2) (h : Overwrites t t' dir artifacts done) :
    (∀ x, t'.entryAt x = t.entryAt x) ↔ Idle t dir artifacts done := by
  constructor
  · intro hsame
    have hkept : Keeps t' t :=
      ⟨((makeDirs_spec hwf).1.keeps.trans h.keeps).workingDir.symm, fun x hx => hsame x ▸ hx⟩
    refine ⟨hkept.isDirectory? (h.isDirectory? hwf hcan), fun name hstale => ?_, fun e he => ?_⟩
    · obtain ⟨content, hfile, -⟩ := hstale.compiled
      rw [← hsame, h.removed name hstale] at hfile
      cases hfile
    · have hfile := h.written e he
      rw [hsame] at hfile
      exact reads_eq_true_iff.2 ⟨_, hfile, textOf?_settled (hsources e he) _⟩
  · intro hidle x
    by_cases hx : ∃ e ∈ done, x = t.target dir ++ [e.1]
    · obtain ⟨e, he, rfl⟩ := hx
      obtain ⟨content, hfile, htext⟩ := reads_eq_true_iff.1 (hidle.reads e he)
      rw [h.written e he, hfile, settled_of_reads htext]
    · rw [h.others x (fun e he heq => hx ⟨e, he, heq⟩)
        fun name hstale => absurd hstale (hidle.not_stale name), made_of_isDirectory? hidle.isDirectory]

/-- What a write leaves behind.  Where the search for earlier modules breaks off, those found are
gone and that is all.  Nothing is said of a write that stops at a file which does not read as a
text. -/
structure WrittenOrStopped (t : FileTree) (dir : Path) (artifacts : Artifacts) (w : Written) :
    Prop where
  written : ∀ paths, w.outcome = .ok paths →
    ∀ e ∈ artifacts, w.tree.readText (dir.entry e.1) = .ok e.2
  completes : CanMake t dir → (∀ b, ¬ Blocks t dir artifacts b) →
    (∀ e ∈ artifacts, Writable (made t dir) dir e.1) →
    w.outcome = .ok (artifacts.map fun e => dir.entry e.1)
  refused : ¬ CanMake t dir → (∃ e, w.outcome = .error e) ∧ Extends t w.tree dir
  blocked : ∀ b, Blocks t dir artifacts b → (∃ e, w.outcome = .error e) ∧
    (∀ name, Found t dir artifacts name → w.tree.entryAt (t.target dir ++ [name]) = none) ∧
    (∀ x, (∀ name, Found t dir artifacts name → x ≠ t.target dir ++ [name]) →
      w.tree.entryAt x = t.entryAt x) ∧
    ((∀ x, w.tree.entryAt x = t.entryAt x) ↔ ∀ name, ¬ Found t dir artifacts name)
  stopped : ∀ done a rest, CanMake t dir → (∀ b, ¬ Blocks t dir artifacts b) →
    artifacts = done ++ a :: rest →
    (∀ e ∈ done, Writable (made t dir) dir e.1) → ¬ Accepts (made t dir) dir a.1 →
    (∃ e, w.outcome = .error e) ∧ Overwrites t w.tree dir artifacts done ∧
      (∀ e ∈ done, w.tree.readText (dir.entry e.1) = .ok e.2) ∧
      ((∀ x, w.tree.entryAt x = t.entryAt x) ↔ Idle t dir artifacts done)

/-- **A write leaves behind** all modules, or those before the one at which it stopped, or nothing
new where the directory cannot be made or searched. -/
theorem written_or_stopped (hwf : t.WellFormed) {m : Model} (hm : m.IsCompiled) :
    WrittenOrStopped t dir (Package.artifacts m) (write t dir (Package.artifacts m)) := by
  have hpackage := isPackage_artifacts hm.wellNamed
  have hname : ∀ e ∈ Package.artifacts m, e.1 ≠ ".." :=
    fun e he => ne_dots_of_isModuleFile (hpackage.isModuleFile e he)
  have hwritten : ∀ paths, (write t dir (Package.artifacts m)).outcome = .ok paths →
      ∀ e ∈ Package.artifacts m,
        (write t dir (Package.artifacts m)).tree.readText (dir.entry e.1) = .ok e.2 :=
    fun paths hpaths e he => (completed_of_ok hwf hpackage hpaths).readText_eq_ok hwf hpackage he
  have hcompletes (hcan : CanMake t dir) (hfree : ∀ b, ¬ Blocks t dir (Package.artifacts m) b)
      (hall : ∀ e ∈ Package.artifacts m, Writable (made t dir) dir e.1) :=
    (CanWrite.mk hcan hfree hall).outcome_eq_ok hwf hpackage
  cases ends_write dir hwf hpackage with
  | refused hmake houtcome hextends =>
      exact ⟨hwritten, hcompletes, fun _ => ⟨houtcome, hextends⟩,
        fun _ hb => absurd hb.canMake hmake, fun _ _ _ hcan => absurd hcan hmake⟩
  | blocked hb houtcome htree =>
      exact ⟨hwritten, hcompletes, fun hmake => absurd hb.canMake hmake,
        fun _ _ => ⟨houtcome, fun _ => htree.entryAt_found, fun _ => htree.entryAt_other,
          htree.entryAt_eq_iff⟩,
        fun _ _ _ _ hfree => absurd hb (hfree _)⟩
  | completed hcan hfree hall houtcome htree =>
      exact ⟨hwritten, hcompletes, fun hmake => absurd hcan hmake,
        fun _ hb => absurd hb (hfree _),
        fun done a rest _ _ heq _ ha => absurd (hall a (by simp [heq])).accepts ha⟩
  | @stopped done rest a hcan hfree heq hdone ha houtcome htree =>
      have hmem : ∀ e ∈ done, e ∈ Package.artifacts m := fun e he => heq ▸ List.mem_append_left _ he
      refine ⟨hwritten, hcompletes, fun hmake => absurd hcan hmake,
        fun _ hb => absurd hb (hfree _), fun done' a' rest' _ _ heq' hdone' ha' => ?_⟩
      -- the write stopped at the first module that cannot be written
      obtain rfl : done = done' := split_unique (heq.symm.trans heq') hdone ha hdone'
        fun hwritable => ha' hwritable.accepts
      refine ⟨houtcome, htree, fun e he => ?_, htree.entryAt_eq_iff hwf hcan fun e he =>
        hpackage.isModuleSource e (hmem e he)⟩
      exact htree.readText_eq_ok hwf hcan he (hdone e he).accepts.1 (hname e (hmem e he))
        (hpackage.isModuleSource e (hmem e he))

theorem written_or_stopped_mixedFiles :
    ∃ c, (Compilation.compile twoLocales resSettings).1 = .ok c ∧ mixedFiles.WellFormed ∧
      ∃ paths, (write mixedFiles genDir (Package.artifacts c.model)).outcome = .ok paths ∧
        ∀ e ∈ Package.artifacts c.model,
          (write mixedFiles genDir (Package.artifacts c.model)).tree.readText (genDir.entry e.1) =
            .ok e.2 := by
  obtain ⟨c, hc, hcompiled, -, paths, houtcome⟩ := write_mixedFiles
  exact ⟨c, hc, wellFormed_mixedFiles, paths, houtcome,
    (written_or_stopped wellFormed_mixedFiles hcompiled).written paths houtcome⟩

/-- A tree with an earlier module, and a directory where the first module of every package goes. -/
def directoryInTheWay : FileTree where
  workingDir := []
  entries := [
    (["gen"], .directory),
    (["gen", "strings_old.py"], .file (headerLine ++ "\n").toUTF8),
    (["gen", formattedStringFile], .directory)]

theorem isDirectory?_directoryInTheWay : directoryInTheWay.isDirectory? genDir = .ok true := rfl

/-- The module of an earlier run is stale. -/
theorem stale_directoryInTheWay (h : "strings_old.py" ∉ artifacts.keys) :
    Stale directoryInTheWay genDir artifacts "strings_old.py" where
  isDirectory := isDirectory?_directoryInTheWay
  isModuleFile := by decide
  not_artifact := OrderedMap.has_eq_false_iff.2 h
  reaches := by decide
  compiled := ⟨_, rfl, isCompiled_header⟩

/-- A write fails at a directory in its way and has removed a module by then. -/
theorem not_all_or_nothing_directory :
    ∃ c, (Compilation.compile twoLocales resSettings).1 = .ok c ∧
      directoryInTheWay.WellFormed ∧
      (∃ e, (write directoryInTheWay genDir (Package.artifacts c.model)).outcome = .error e) ∧
      (write directoryInTheWay genDir (Package.artifacts c.model)).tree.entryAt
        ["gen", "strings_old.py"] ≠ directoryInTheWay.entryAt ["gen", "strings_old.py"] := by
  obtain ⟨c, hc, hcompiled, -, hnames⟩ := package_twoLocales
  have hpackage := isPackage_artifacts hcompiled.wellNamed
  have hmem := formattedString_mem_artifacts hcompiled.wellNamed
  have hwf : directoryInTheWay.WellFormed := wellFormed_of_entries (by decide) rfl
  have hcan := canMake_of_isDirectory? isDirectory?_directoryInTheWay
  have hmade := made_of_isDirectory? isDirectory?_directoryInTheWay
  cases ends_write genDir hwf hpackage with
  | refused hmake _ _ => exact absurd hcan hmake
  | blocked hb _ _ => exact absurd hb (not_blocks_of_entries (by decide) _)
  | completed _ _ hall _ _ =>
      have haccepts := (hall _ hmem).accepts
      rw [hmade] at haccepts
      exact absurd rfl haccepts.2
  | stopped _ _ _ _ _ houtcome htree =>
      refine ⟨c, hc, hwf, houtcome, ?_⟩
      have hnone : _ = none :=
        htree.removed _ (stale_directoryInTheWay fun h => (hnames _ h).1 rfl)
      have hlocation : directoryInTheWay.target genDir ++ ["strings_old.py"] =
        ["gen", "strings_old.py"] := rfl
      rw [hlocation] at hnone
      rw [hnone]
      nofun

/-- A tree with an earlier module and a file of other origin whose name is longer than that of any
module. -/
def foreignFile : FileTree where
  workingDir := []
  entries := [
    (["gen"], .directory),
    (["gen", "strings_old.py"], .file (headerLine ++ "\n").toUTF8),
    (["gen", "translations_of_last_year_by_hand.py"], .file "# kept\n".toUTF8)]

/-- A way to `gen` that leaves room for the names of modules, but not for that name. -/
def narrowWay : Path := turning "gen" 580

/-- The way leads to the directory of the package. -/
theorem isDirectory?_narrowWay : foreignFile.isDirectory? narrowWay = .ok true ∧
    foreignFile.target narrowWay = ["gen"] :=
  isDirectory?_turning rfl (by decide) (by decide) (by decide) rfl (by decide)

/-- There is room for names of up to 31 bytes at its end. -/
theorem reaches_narrowWay {name : String} (hnull : '\x00' ∉ name.toList)
    (hsize : name.utf8ByteSize ≤ 31) : Reaches narrowWay name := by
  have hgen : "gen".utf8ByteSize = 3 := rfl
  refine (reaches_turning_iff (by decide) hnull).2 ⟨?_, ?_⟩
  · rw [hgen, maxPathBytes]
    omega
  · rw [maxNameBytes]
    omega

/-- What lies at the end of that way. -/
theorem entryAt_foreignFile {name : String} {e : FileEntry}
    (h : foreignFile.entryAt (foreignFile.target narrowWay ++ [name]) = some e) :
    name = "strings_old.py" ∧ e = .file (headerLine ++ "\n").toUTF8 ∨
      name = "translations_of_last_year_by_hand.py" ∧ e = .file "# kept\n".toUTF8 := by
  rw [isDirectory?_narrowWay.2] at h
  have hmem : (["gen", name], e) ∈ foreignFile.entries := OrderedMap.mem_of_get? h
  simpa [foreignFile] using hmem

/-- The name of the foreign file is too long for that way, so the file blocks the search for stale
modules. -/
theorem blocks_foreignFile
    (h : OrderedMap.has artifacts "translations_of_last_year_by_hand.py" = false) :
    Blocks foreignFile narrowWay artifacts "translations_of_last_year_by_hand.py" := by
  obtain ⟨hdir, htarget⟩ := isDirectory?_narrowWay
  refine (blocks_iff hdir).2 ⟨by decide, h, by rw [htarget]; decide,
    null_not_mem_entry_turning (by decide) (by decide), fun hreaches => ?_⟩
  have hlength := ((reaches_turning_iff (by decide) (by decide)).1 hreaches).1
  exact absurd hlength (by decide)

/-- The search for earlier modules finds the one that is there before it breaks off. -/
theorem found_foreignFile (h : OrderedMap.has artifacts "strings_old.py" = false) :
    Found foreignFile narrowWay artifacts "strings_old.py" := by
  obtain ⟨hdir, htarget⟩ := isDirectory?_narrowWay
  have hreaches : Reaches narrowWay "strings_old.py" := reaches_narrowWay (by decide) (by decide)
  refine ⟨⟨hdir, by decide, h, hreaches, _, by rw [htarget]; rfl, isCompiled_header⟩,
    fun b hb => ?_⟩
  obtain ⟨-, -, hthere, -, hlong⟩ := (blocks_iff hdir).1 hb
  obtain ⟨e, he⟩ := Option.ne_none_iff_exists'.1 hthere
  rcases entryAt_foreignFile he with ⟨rfl, -⟩ | ⟨rfl, -⟩
  · exact absurd hreaches hlong
  · decide

/-- A write fails though every module can be written: the path of a file of other origin is too long
to be asked about.  It has removed a module by then. -/
theorem not_all_or_nothing_narrow_way :
    ∃ c, (Compilation.compile twoLocales resSettings).1 = .ok c ∧ foreignFile.WellFormed ∧
      CanMake foreignFile narrowWay ∧
      (∀ e ∈ Package.artifacts c.model, Writable (made foreignFile narrowWay) narrowWay e.1) ∧
      (∃ e, (write foreignFile narrowWay (Package.artifacts c.model)).outcome = .error e) ∧
      (write foreignFile narrowWay (Package.artifacts c.model)).tree.entryAt
        ["gen", "strings_old.py"] ≠ foreignFile.entryAt ["gen", "strings_old.py"] := by
  obtain ⟨c, hc, hkeys⟩ := keys_twoLocales
  have hpackage := isPackage_artifacts (Compilation.compile_spec hc).wellNamed
  have hwf : foreignFile.WellFormed := wellFormed_of_entries (by decide) rfl
  obtain ⟨hdir, htarget⟩ := isDirectory?_narrowWay
  have hnames : ∀ name ∈ (Package.artifacts c.model).keys,
      '\x00' ∉ name.toList ∧ name.utf8ByteSize ≤ 31 := by
    rw [hkeys]
    decide
  have hall : ∀ e ∈ Package.artifacts c.model,
      Writable (made foreignFile narrowWay) narrowWay e.1 := by
    rw [made_of_isDirectory? hdir]
    intro e he
    obtain ⟨hnull, hsize⟩ := hnames e.1 (List.mem_map_of_mem he)
    refine writable_of_text (reaches_narrowWay hnull hsize) fun entry hentry => ?_
    rcases entryAt_foreignFile hentry with ⟨-, rfl⟩ | ⟨-, rfl⟩ <;> exact ⟨_, rfl⟩
  have hblocks := blocks_foreignFile (OrderedMap.has_eq_false_iff.2 (by rw [hkeys]; decide))
  have hfound := found_foreignFile (OrderedMap.has_eq_false_iff.2 (by rw [hkeys]; decide))
  refine ⟨c, hc, hwf, canMake_of_isDirectory? hdir, hall, ?_⟩
  cases ends_of_blocks hwf hblocks with
  | refused hmake _ _ => exact absurd hblocks.canMake hmake
  | completed _ hfree _ _ _ => exact absurd hblocks (hfree _)
  | stopped _ hfree _ _ _ _ _ => exact absurd hblocks (hfree _)
  | blocked _ houtcome htree =>
      refine ⟨houtcome, ?_⟩
      have hnone := htree.entryAt_found hfound
      rw [htarget] at hnone
      have hlocation : ["gen"] ++ ["strings_old.py"] = ["gen", "strings_old.py"] := rfl
      rw [← hlocation, hnone]
      nofun

end StringCatalog.Package
