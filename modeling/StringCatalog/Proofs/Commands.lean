import StringCatalog.Command
import StringCatalog.Proofs.Endings

/-!
# StringCatalog.Proofs.Commands

What the two commands say of the same settings.  One lists the locales that are
found and asks for each catalog whether it is there, the other compiles; both
start from the same words, read the same configuration and find the same
locales, so that the list tells what a compilation takes in and what it leaves
out.

* `requestOf_cases`, `exitCode_settingsOf` — what comes before either of them;
* `localeRows_of_answered`, `filter_rows` — the list as two lists, by the mark at
  the end of a row;
* `listed_of_compile`, `exists_compile_of_loads` — from one command to the other;
* `commands_agree` — all of it.
-/

namespace StringCatalog.Command

open Compilation Discovery

variable {t : FileTree} {o : Options} {s : Settings} {words : List String}

/-! ## Words and settings -/

/-- Whether words give options to a command. -/
def Asks (words : List String) (o : Options) : Prop :=
  ∀ task, requestOf task words = .run task o

/-- Words ask for one thing at most. -/
theorem Asks.unique {o' : Options} (h : Asks words o) (h' : Asks words o') : o' = o :=
  (Request.run.inj ((h' .generate).symm.trans (h .generate))).2

/-- Words give options, or they ask for the same thing of both commands. -/
theorem requestOf_cases (words : List String) :
    (∃ o, Asks words o) ∨ ∃ r, (r = .help ∨ r = .usageError) ∧ ∀ task, requestOf task words = r := by
  unfold Asks requestOf
  split
  · exact .inr ⟨.usageError, .inr rfl, fun _ => rfl⟩
  · next w _ =>
    by_cases hhelp : w.asksHelp = true
    · exact .inr ⟨.help, .inl rfl, fun _ => if_pos hhelp⟩
    · by_cases hextra : w.hasExtra = true
      · exact .inr ⟨.usageError, .inr rfl, fun _ => by rw [if_neg hhelp, if_pos hextra]⟩
      · exact .inl ⟨w.options, fun _ => by rw [if_neg hhelp, if_neg hextra]⟩

def wordOf : Task → String
  | .generate => "generate"
  | .locales => "locales"

theorem ofWords_cons (task : Task) (words : List String) :
    Request.ofWords (wordOf task :: words) = requestOf task words := by
  cases task <;> simp [wordOf, Request.ofWords, isQuestion, commandOf]

/-- A command that fails leaves the tree alone, and its exit code is one. -/
theorem exitCode_finishFailed (t : FileTree) (output : List String) (log : Log) (e : Failure) :
    (finishFailed t output log e).exitCode = 1 ∧ (finishFailed t output log e).tree = t := by
  cases e <;> exact ⟨rfl, rfl⟩

/-- A command without settings fails and leaves everything as it is. -/
theorem exitCode_settingsOf {f : Finish} (h : (settingsOf t o).1 = .error f) :
    f.exitCode = 1 ∧ f.tree = t := by
  unfold settingsOf at h
  split at h
  · cases h
    exact ⟨rfl, rfl⟩
  · cases h
    exact ⟨rfl, rfl⟩
  · cases h
    exact ⟨rfl, rfl⟩
  · split at h
    · cases h
      exact ⟨rfl, rfl⟩
    · split at h
      · cases h
        exact exitCode_finishFailed ..
      · cases h

/-! ## Rows -/

def isMarked (mark row : String) : Bool := ('\t' :: mark.toList).isSuffixOf row.toList

def markOf (isThere : Bool) : String := if isThere then "ok" else "missing"

/-- Columns side by side are two groups of columns with one tab between them. -/
theorem toList_intercalate_append {xs ys : List String} (hxs : xs ≠ []) (hys : ys ≠ []) :
    ("\t".intercalate (xs ++ ys)).toList =
      ("\t".intercalate xs).toList ++ '\t' :: ("\t".intercalate ys).toList := by
  rw [String.intercalate_append_of_ne_nil hxs hys, String.append_assoc, String.toList_append,
    String.toList_append]
  rfl

/-- The mark is the last column of a row. -/
theorem exists_toList_localeRow (l : Locale) (p : Path) (isThere : Bool) :
    ∃ start, (localeRow l p isThere).toList = start ++ '\t' :: (markOf isThere).toList := by
  have hfields : localeRow l p isThere = "\t".intercalate
      ([l.memberName, l.code, l.displayName, l.nativeName, p.text] ++ [markOf isThere]) := rfl
  rw [hfields, toList_intercalate_append (List.cons_ne_nil _ _) (List.cons_ne_nil _ _),
    String.intercalate_singleton]
  exact ⟨_, rfl⟩

/-- A row has the mark of what is there. -/
theorem isMarked_localeRow (l : Locale) (p : Path) (isThere : Bool) :
    isMarked "ok" (localeRow l p isThere) = isThere ∧
      isMarked "missing" (localeRow l p isThere) = !isThere := by
  obtain ⟨start, hrow⟩ := exists_toList_localeRow l p isThere
  cases isThere <;> simp [isMarked, hrow, markOf, List.isSuffixOf, List.isPrefixOf]

/-- Whether a row begins with the name of a member. -/
def isOf (member row : String) : Bool := (member.toList ++ ['\t']).isPrefixOf row.toList

/-- What stands before the first tab. -/
theorem takeWhile_tab {cs : List Char} (h : '\t' ∉ cs) (rest : List Char) :
    (cs ++ '\t' :: rest).takeWhile (· ≠ '\t') = cs := by
  have hall : ∀ c ∈ cs, decide (c ≠ '\t') = true :=
    fun c hc => decide_eq_true fun heq => h (heq ▸ hc)
  rw [List.takeWhile_append_of_pos hall]
  simp

/-- A row begins with the name of its own member only. -/
theorem eq_memberName_of_isOf {member : String} {l : Locale} {p : Path} {isThere : Bool}
    (hmember : '\t' ∉ member.toList) (hl : '\t' ∉ l.memberName.toList)
    (h : isOf member (localeRow l p isThere) = true) : member = l.memberName := by
  have hfields : localeRow l p isThere = "\t".intercalate ([l.memberName] ++
      [l.code, l.displayName, l.nativeName, p.text, markOf isThere]) := rfl
  rw [isOf, List.isPrefixOf_iff_prefix, hfields, toList_intercalate_append (List.cons_ne_nil _ _)
    (List.cons_ne_nil _ _), String.intercalate_singleton] at h
  obtain ⟨rest, hrest⟩ := h
  rw [List.append_assoc] at hrest
  apply String.toList_injective
  rw [← takeWhile_tab hl, ← hrest]
  exact (takeWhile_tab hmember rest).symm

def rows (t : FileTree) (fs : List (Locale × Path)) : List String :=
  fs.map fun f => localeRow f.1 f.2 (isPresent t f)

/-- The rows with one mark are those of the catalogs that are there, the others are those of the
catalogs that are not. -/
theorem filter_rows (t : FileTree) (fs : List (Locale × Path)) :
    (rows t fs).filter (isMarked "ok") = (present t fs).map (fun f => localeRow f.1 f.2 true) ∧
      (rows t fs).filter (isMarked "missing") =
        (missing t fs).map fun k => localeRow k.locale k.path false := by
  induction fs with
  | nil => exact ⟨rfl, rfl⟩
  | cons f fs ih =>
      obtain ⟨hok, hmissing⟩ := isMarked_localeRow f.1 f.2 (isPresent t f)
      simp only [rows, present, missing, List.map_cons, List.filter_cons] at ih ⊢
      rw [hok, hmissing, ih.1, ih.2]
      cases h : isPresent t f <;> simp

/-- Where the file system answers for every path, every locale has its row. -/
theorem localeRows_of_answered {fs : List (Locale × Path)} (h : Answered t fs) :
    localeRows t fs = (rows t fs, none) := by
  induction fs with
  | nil => rfl
  | cons f fs ih =>
      obtain ⟨hf, hrest⟩ := List.forall_mem_cons.1 h
      rw [localeRows, ih hrest]
      rcases exists?_cases t f.2 with hexists | hexists | hexists
      · simp [hexists, rows, isPresent]
      · simp [hexists, rows, isPresent]
      · exact absurd hexists hf

/-- Rows without a failure mean that the file system answered for every path. -/
theorem answered_of_localeRows {fs : List (Locale × Path)} (h : (localeRows t fs).2 = none) :
    Answered t fs := by
  induction fs with
  | nil => exact fun _ hf => nomatch hf
  | cons f fs ih =>
      rw [localeRows] at h
      split at h
      · cases h
      · next hexists =>
        exact List.forall_mem_cons.2 ⟨by rw [hexists]; nofun, ih h⟩

/-- The row of the default locale tells whether its catalog is there. -/
theorem isPresent_of_default_row {found : Discovered} {row : String} (hfound : Discovers t s found)
    (hrow : row ∈ rows t found.all) (hdefault : isOf "DEFAULT" row = true)
    (hok : isMarked "ok" row = true) : isPresent t found.default = true := by
  obtain ⟨f, hf, rfl⟩ := List.mem_map.1 hrow
  have hnamed := (discover_spec hfound).1
  have hmem : f.1 ∈ found.default.1 :: found.others.map (·.1) := List.mem_map_of_mem hf
  have htab : '\t' ∉ f.1.memberName.toList := fun h =>
    absurd ((hnamed.safeName_memberName hmem).nameChars _ h) (by decide)
  have hname := eq_memberName_of_isOf (by decide) htab hdefault
  rw [(isMarked_localeRow _ _ _).1] at hok
  rcases List.mem_cons.1 hf with rfl | hf
  · exact hok
  · exact absurd hname.symm (hnamed.memberName_ne_default (List.mem_map_of_mem hf))

/-! ## From one command to the other -/

/-- What is printed of a locale that was left out. -/
def skippedLine (k : Skipped) : String :=
  "  Skipped " ++ k.locale.name ++ ": " ++ k.reason ++ " (" ++ k.path.text ++ ")"

/-- What the two commands print of a compilation. -/
structure Listed (t : FileTree) (s : Settings) (c : Compiled) (generated listed : List String) :
    Prop where
  compiled : (compile t s).1 = .ok c
  /-- The locales of the model are those with a catalog, the default one first. -/
  locales : c.model.locales = c.catalogs.map (·.1)
  default_first : ∃ others, c.model.locales = c.model.default :: others ∧
    c.model.default.memberName = "DEFAULT"
  /-- Rows with one mark list them, each with its path. -/
  ok_rows : listed.filter (isMarked "ok") = c.catalogs.map fun e => localeRow e.1 e.2.1 true
  /-- Rows with the other mark list those that are left out, and so do the lines of the compilation. -/
  missing_rows : listed.filter (isMarked "missing") =
    c.skipped.map fun k => localeRow k.locale k.path false
  skipped_lines : generated.tail = c.skipped.map skippedLine

/-- What is generated from a compilation is listed, and so is what it skips. -/
theorem listed_of_compile {c : Compiled} {r : Result} (hc : (compile t s).1 = .ok c)
    (hr : r.compiled = c) :
    ∃ found, Discovers t s found ∧ Answered t found.all ∧
      Listed t s c (generateOutput r) (rows t found.all) := by
  obtain ⟨found, hfound, hcompiles⟩ := compile_eq_ok_iff.1 hc
  have hread := compile_spec hc
  obtain ⟨others, hlocales, hnamed⟩ := hread.wellNamed
  obtain ⟨hok, hmissing⟩ := filter_rows t found.all
  refine ⟨found, hfound, hcompiles.answered, hc, ?_,
    ⟨others, hlocales, Locale.memberName_of_isDefault hnamed.default_isDefault⟩, ?_, ?_, ?_⟩
  · rw [Model.locales, hread.catalogs, OrderedMap.keys, List.map_map]
    rfl
  · rw [hok, ← hcompiles.catalogs, List.map_map]
    rfl
  · rw [hmissing, hcompiles.skipped]
  · rw [← hr]
    rfl

/-- Catalogs that are there and can be read are compiled. -/
theorem exists_compile_of_loads {found : Discovered} (hfound : Discovers t s found)
    (hdefault : isPresent t found.default = true) (hanswered : Answered t found.all)
    (hloads : ∀ f ∈ present t found.all, ∃ catalog, (Catalog.load t f.2).1 = .ok catalog) :
    ∃ c, (compile t s).1 = .ok c := by
  cases h : (compile t s).1 with
  | ok c => exact ⟨c, rfl⟩
  | error e =>
      cases compile_eq_error_iff.1 h with
      | unusable hname => exact absurd hname hfound.usable.1
      | unsearchable _ hsearch => exact absurd hsearch hfound.usable.2
      | missing hfound' hmissing =>
          cases hfound.unique hfound'
          simp [isPresent, hmissing] at hdefault
      | unanswered hfound' _ hnot =>
          cases hfound.unique hfound'
          exact absurd hanswered hnot
      | @unread _ _ _ f _ hfound' _ _ hpresent _ hload =>
          cases hfound.unique hfound'
          have hf : f ∈ present t found.all := by simp [hpresent]
          obtain ⟨catalog, hcatalog⟩ := hloads f hf
          rw [hload] at hcatalog
          cases hcatalog

/-- A compilation that reads everything ends as the writing of the package does. -/
theorem outcome_run_of_ok {c : Compiled} (h : (compile t s).1 = .ok c) :
    (Compilation.run t s).outcome =
      match (Package.write t s.packageDir (Package.artifacts c.model)).outcome with
      | .error e => .error (.file e)
      | .ok written => .ok ⟨c, s.packageDir, written⟩ := by
  unfold Compilation.run
  split
  · next hcompile =>
    rw [hcompile] at h
    cases h
  · next hcompile =>
    rw [hcompile] at h
    cases h
    dsimp only
    split <;> simp [*]

/-- A run that succeeds has compiled what it reports. -/
theorem compile_of_run {r : Result} (h : (Compilation.run t s).outcome = .ok r) :
    (compile t s).1 = .ok r.compiled := by
  cases hcompile : (compile t s).1 with
  | error e =>
      rw [run_of_error hcompile] at h
      cases h
  | ok c =>
      rw [outcome_run_of_ok hcompile] at h
      split at h
      · cases h
      · cases h
        rfl

/-- A compilation that reads everything fails at a file only. -/
theorem run_of_compile {c : Compiled} (h : (compile t s).1 = .ok c) :
    (∃ r, (Compilation.run t s).outcome = .ok r) ∨
      ∃ e, (Compilation.run t s).outcome = .error (.file e) := by
  rw [outcome_run_of_ok h]
  split
  · exact .inr ⟨_, rfl⟩
  · exact .inl ⟨_, rfl⟩

/-! ### One command -/

/-- Exit code zero means that the run succeeded, and the output is what it reports. -/
theorem generate_exit {log : Log} (h : (generate t s log).exitCode = 0) :
    ∃ r, (Compilation.run t s).outcome = .ok r ∧ (generate t s log).output = generateOutput r := by
  unfold generate at h ⊢
  dsimp only at h ⊢
  split at h
  · rw [(exitCode_finishFailed ..).1] at h
    cases h
  · next r hr => exact ⟨r, hr, rfl⟩

/-- After a compilation only the file system can stand in the way, and the command then crashes.
-/
theorem generate_of_compile {c : Compiled} (log : Log) (h : (compile t s).1 = .ok c) :
    (generate t s log).exitCode = 0 ∨ ∃ e, (generate t s log).crash = some (.file e) := by
  unfold generate
  rcases run_of_compile h with ⟨r, hr⟩ | ⟨e, he⟩
  · exact .inl (by dsimp only; rw [hr])
  · exact .inr ⟨e, by dsimp only; rw [he]; rfl⟩

/-- The list of locales changes nothing. -/
theorem locales_tree (t : FileTree) (s : Settings) (log : Log) : (locales t s log).tree = t := by
  unfold locales
  split
  · exact (exitCode_finishFailed ..).2
  · split <;> rfl

/-- Locales that are found are listed if the file system answers for every path. -/
theorem locales_of_answered {found : Discovered} (log : Log) (hfound : Discovers t s found)
    (h : Answered t found.all) :
    (locales t s log).exitCode = 0 ∧ (locales t s log).output = rows t found.all := by
  unfold Discovers at hfound
  unfold locales
  split
  · next heq =>
    rw [heq] at hfound
    cases hfound
  · next heq =>
    rw [heq] at hfound
    cases hfound
    rw [localeRows_of_answered h]
    exact ⟨rfl, rfl⟩

/-- Exit code zero means that locales were found and the file system answered for every path. -/
theorem locales_exit {log : Log} (h : (locales t s log).exitCode = 0) :
    ∃ found, Discovers t s found ∧ Answered t found.all := by
  unfold locales at h
  split at h
  · rw [(exitCode_finishFailed ..).1] at h
    cases h
  · next found _ hfound =>
    split at h
    · next hrows => exact ⟨found, congrArg Prod.fst hfound, answered_of_localeRows (by rw [hrows])⟩
    · cases h

/-! ### Both commands -/

/-- What the two commands say of the same words: `g` generates and `l` lists. -/
structure Agree (t : FileTree) (words : List String) (g l : Finish) : Prop where
  /-- Listing changes nothing. -/
  unchanged : l.tree = t
  exits : g.exitCode = 0 → l.exitCode = 0
  /-- What was compiled is what is listed. -/
  listed : ∀ o, Asks words o → g.exitCode = 0 →
    ∃ s c, (settingsOf t o).1 = .ok s ∧ Listed t s c g.output l.output
  /-- What is listed can be compiled, if the default catalog is there and all that are can be
  read. -/
  compiles : ∀ o, Asks words o → l.exitCode = 0 →
    ∃ s found, (settingsOf t o).1 = .ok s ∧ Discovers t s found ∧ l.output = rows t found.all ∧
      ((∃ row ∈ l.output, isOf "DEFAULT" row = true ∧ isMarked "ok" row = true) →
        (∀ f ∈ present t found.all, ∃ catalog, (Catalog.load t f.2).1 = .ok catalog) →
        (∃ c, (compile t s).1 = .ok c) ∧ (g.exitCode = 0 ∨ ∃ e, g.crash = some (.file e)))

/-- With the same settings the two commands agree. -/
theorem agree_of_settings {log : Log} (hs : settingsOf t o = (.ok s, log)) (hwords : Asks words o) :
    Agree t words (generate t s log) (locales t s log) where
  unchanged := locales_tree t s log
  exits h := by
    obtain ⟨r, hr, -⟩ := generate_exit h
    obtain ⟨found, hfound, hanswered, -⟩ := listed_of_compile (compile_of_run hr) rfl
    exact (locales_of_answered log hfound hanswered).1
  listed o' ho' h := by
    obtain rfl := hwords.unique ho'
    obtain ⟨r, hr, houtput⟩ := generate_exit h
    obtain ⟨found, hfound, hanswered, hlisted⟩ := listed_of_compile (compile_of_run hr) rfl
    refine ⟨s, r.compiled, by rw [hs], ?_⟩
    rw [houtput, (locales_of_answered log hfound hanswered).2]
    exact hlisted
  compiles o' ho' h := by
    obtain rfl := hwords.unique ho'
    obtain ⟨found, hfound, hanswered⟩ := locales_exit h
    have houtput := (locales_of_answered log hfound hanswered).2
    refine ⟨s, found, by rw [hs], hfound, houtput, ?_⟩
    rintro ⟨row, hrow, hdefault, hok⟩ hloads
    rw [houtput] at hrow
    obtain ⟨c, hc⟩ := exists_compile_of_loads hfound
      (isPresent_of_default_row hfound hrow hdefault hok) hanswered hloads
    exact ⟨⟨c, hc⟩, generate_of_compile log hc⟩

/-- **The two commands agree**: after the same words one lists what the other compiles. -/
theorem commands_agree (t : FileTree) (words : List String) :
    Agree t words (run t ("generate" :: words)) (run t ("locales" :: words)) := by
  have hgenerate : Request.ofWords ("generate" :: words) = requestOf .generate words :=
    ofWords_cons .generate words
  have hlocales : Request.ofWords ("locales" :: words) = requestOf .locales words :=
    ofWords_cons .locales words
  rw [run, run, hgenerate, hlocales]
  rcases requestOf_cases words with ⟨o, hwords⟩ | ⟨r, hr, hrequest⟩
  · rw [hwords, hwords]
    dsimp only
    unfold runTask
    generalize hs : settingsOf t o = outcome
    obtain ⟨outcome, log⟩ := outcome
    cases outcome with
    | ok s => exact agree_of_settings hs hwords
    | error f =>
        obtain ⟨hexit, htree⟩ := exitCode_settingsOf (congrArg Prod.fst hs)
        have hnot : ¬ f.exitCode = 0 := by omega
        exact ⟨htree, fun h => absurd h hnot, fun _ _ h => absurd h hnot,
          fun _ _ h => absurd h hnot⟩
  · have hnone : ∀ o, ¬ Asks words o := by
      intro o ho
      rcases hr with rfl | rfl <;> exact absurd ((hrequest .generate).symm.trans (ho .generate)) nofun
    rw [hrequest, hrequest]
    rcases hr with rfl | rfl
    · exact ⟨rfl, fun _ => rfl, fun o ho => absurd ho (hnone o), fun o ho => absurd ho (hnone o)⟩
    · exact ⟨rfl, nofun, fun o ho => absurd ho (hnone o), fun o ho => absurd ho (hnone o)⟩

end StringCatalog.Command
