import StringCatalog.Proofs.Endings
import StringCatalog.Proofs.Listings

/-!
# StringCatalog.Proofs.Verdicts

Which directories give a locale.  Of those that count a directory is listed
unless its name is taken, by the default locale or by an earlier one.

* `candidates_spec` — the directories that count, in ascending order;
* `mem_listed_iff` — those that are listed are the ones whose name is free
  (`Free`) and no earlier one's;
* `exists_first_listed` — of all directories of one name the first is listed;
* `discover_eq_ok` — what a discovery returns, in these terms.
-/

namespace StringCatalog

open Text FileTree

namespace Discovery

variable {t t' : FileTree} {resources : Path}

/-! ## Directories that count -/

/-- What follows the common start in the name of a directory. -/
def token (directory : String) : String :=
  String.ofList (directory.toList.drop Locale.directoryPrefix.length)

/-- Whether a name in the resources is that of a directory that counts. -/
def IsLocaleDirectory (t : FileTree) (resources : Path) (directory : String) : Prop :=
  Locale.directoryPrefix.toList <+: directory.toList ∧
    t.isDirectory? (resources.entry directory) = .ok true

instance (t : FileTree) (resources : Path) (directory : String) :
    Decidable (IsLocaleDirectory t resources directory) := inferInstanceAs (Decidable (_ ∧ _))

/-- When all names can be asked about, those of directories that count are left. -/
theorem candidatesAmong_eq {names : List String}
    (h : ∀ name ∈ names, t.isDirectory? (resources.entry name) ≠ .error .nameTooLong) :
    candidatesAmong t resources names =
      (names.filter fun name => IsLocaleDirectory t resources name, .ok ()) := by
  induction names with
  | nil => rfl
  | cons name names ih =>
      rw [List.forall_mem_cons] at h
      rw [candidatesAmong, ih h.2]
      cases hname : t.isDirectory? (resources.entry name) with
      | error e => exact absurd (eq_nameTooLong_of_test hname ▸ hname) h.1
      | ok isDirectory =>
          have hcounts : (isDirectory && Locale.directoryPrefix.toList.isPrefixOf name.toList) =
              decide (IsLocaleDirectory t resources name) := by
            rw [Bool.eq_iff_iff, Bool.and_eq_true, List.isPrefixOf_iff_prefix, decide_eq_true_eq,
              IsLocaleDirectory, hname, and_comm, Except.ok.injEq]
          simp only [hcounts, List.filter_cons]

/-- **The directories that count** come in ascending order, if all can be asked about. -/
theorem candidates_spec (h : ¬ Unsearchable t resources) :
    (candidates t resources).2 = .ok () ∧
      (candidates t resources).1.Sublist (t.namesAt (t.target resources)) ∧
      ∀ d, d ∈ (candidates t resources).1 ↔ IsLocaleDirectory t resources d := by
  have hdots : ∀ {d : String}, Locale.directoryPrefix.toList <+: d.toList → d ≠ ".." := by
    intro d hd heq
    subst heq
    revert hd
    decide
  have hmem : ∀ {d : String}, IsLocaleDirectory t resources d →
      t.isDirectory? resources = .ok true ∧ d ∈ t.namesAt (t.target resources) :=
    fun hd => isDirectory?_of_entry (hdots hd.1) hd.2
  unfold candidates
  split
  · next e hdir => exact absurd (.inl (eq_nameTooLong_of_test hdir ▸ hdir)) h
  · next hdir =>
    -- below a path that leads to no directory there is none
    refine ⟨rfl, List.nil_sublist _, fun d => ⟨nofun, fun hd => ?_⟩⟩
    rw [hdir] at hmem
    cases (hmem hd).1
  · next hdir =>
    have hanswered : ∀ name ∈ t.namesAt (t.target resources),
        t.isDirectory? (resources.entry name) ≠ .error .nameTooLong :=
      fun name hname hrefused => h (.inr ⟨hdir, name, hname, hrefused⟩)
    rw [names_of_isDirectory? hdir]
    dsimp only
    rw [candidatesAmong_eq hanswered]
    refine ⟨rfl, List.filter_sublist, fun d => ?_⟩
    rw [List.mem_filter, decide_eq_true_eq]
    exact and_iff_right_of_imp fun hd => (hmem hd).2

/-- In whatever order the entries are kept, the same directories count. -/
theorem candidates_of_reorders (h : Reorders t t') (hdistinct : t.Distinct) (resources : Path) :
    candidates t' resources = candidates t resources := by
  have hamong (names : List String) :
      candidatesAmong t' resources names = candidatesAmong t resources names := by
    induction names with
    | nil => rfl
    | cons name names ih => simp only [candidatesAmong, h.isDirectory? hdistinct, ih]
  simp only [candidates, h.isDirectory? hdistinct, h.names hdistinct, hamong]

/-! ## Directories that are listed -/

/-- The name of the locale of a directory, in lower case. -/
def lowerName (directory : String) : String := lower (safeName (token directory))

@[simp] theorem name_ofDirectory (d : String) :
    (Locale.ofDirectory d).name = safeName (token d) := rfl

/-- Whether the name of a directory is usable and not taken. -/
def Free (taken : List String) (d : String) : Prop :=
  safeName (token d) ≠ "" ∧ lowerName d ∉ taken

def listedOf (vs : List (String × Verdict)) : List String :=
  (vs.filter fun v => (listed? v).isSome).map (·.1)

/-- A name is free beside one more that is taken if it was free and differs from that. -/
theorem free_cons_iff {taken : List String} {d₀ d : String} :
    Free (lowerName d₀ :: taken) d ↔ Free taken d ∧ lowerName d₀ ≠ lowerName d := by
  simp only [Free, List.mem_cons, not_or, ne_comm, and_assoc, and_comm]

/-- A directory that is free is listed. -/
theorem verdict_of_free {taken : List String} {d : String} (h : Free taken d) :
    verdict taken d = .listed (Locale.ofDirectory d) := by
  obtain ⟨hname, htaken⟩ := h
  have hprefix : d ≠ Locale.directoryPrefix := by
    rintro rfl
    exact hname rfl
  have htaken' : lower (safeName (token d)) ∉ taken := htaken
  simp [verdict, hprefix, hname, htaken']

/-- No other is. -/
theorem exists_listed_iff {taken : List String} {d : String} :
    (∃ l, verdict taken d = .listed l) ↔ Free taken d := by
  constructor
  · rintro ⟨l, h⟩
    obtain ⟨rfl, hsafe, htaken⟩ := verdict_eq_listed h
    exact ⟨fun hname => hsafe.toList_ne_nil (by simp [hname]), htaken⟩
  · exact fun h => ⟨_, verdict_of_free h⟩

theorem verdict_ne_listed {taken : List String} {d : String} (h : ¬ Free taken d) (l : Locale) :
    verdict taken d ≠ .listed l :=
  fun hl => h (exists_listed_iff.1 ⟨l, hl⟩)

/-- A directory that is free comes first, and its name is taken for the rest. -/
theorem listedOf_cons_listed {taken : List String} {d : String} (h : Free taken d)
    (ds : List String) :
    listedOf (verdicts taken (d :: ds)) = d :: listedOf (verdicts (lowerName d :: taken) ds) := by
  rw [verdicts_listed (verdict_of_free h)]
  rfl

/-- One that is not free makes no difference to the rest. -/
theorem listedOf_cons_passed {taken : List String} {d : String} (h : ¬ Free taken d)
    (ds : List String) :
    listedOf (verdicts taken (d :: ds)) = listedOf (verdicts taken ds) := by
  have hnone : (listed? (d, verdict taken d)).isSome = false := by
    cases hv : verdict taken d with
    | listed l => exact absurd hv (verdict_ne_listed h l)
    | _ => rfl
  simp [verdicts_passed (verdict_ne_listed h), listedOf, hnone]

/-- Directories are listed in the order they come in. -/
theorem listedOf_sublist (taken ds : List String) : (listedOf (verdicts taken ds)).Sublist ds := by
  induction ds generalizing taken with
  | nil => exact .slnil
  | cons d ds ih =>
      by_cases h : Free taken d
      · rw [listedOf_cons_listed h]
        exact (ih _).cons_cons d
      · rw [listedOf_cons_passed h]
        exact (ih _).cons d

/-- **A directory is listed** when its name is free and no earlier one of that name is listed. -/
theorem mem_listed_iff {taken ds : List String} (hsorted : ds.Pairwise (· < ·)) {d : String} :
    d ∈ listedOf (verdicts taken ds) ↔ d ∈ ds ∧ Free taken d ∧
      ∀ e ∈ listedOf (verdicts taken ds), e < d → lowerName e ≠ lowerName d := by
  -- each directory that is listed takes its name, so the names that are taken stay general
  induction ds generalizing taken with
  | nil => simp [verdicts, listedOf]
  | cons d₀ ds ih =>
      obtain ⟨hfirst, hsorted⟩ := List.pairwise_cons.1 hsorted
      have hafter : ∀ taken, ∀ e ∈ listedOf (verdicts taken ds), d₀ < e :=
        fun taken e he => hfirst e ((listedOf_sublist taken ds).mem he)
      by_cases h : Free taken d₀
      · rw [listedOf_cons_listed h]
        by_cases hd : d = d₀
        · subst hd
          have hearlier : ∀ e ∈ d :: listedOf (verdicts (lowerName d :: taken) ds), ¬ e < d := by
            intro e he hlt
            cases he with
            | head => exact String.lt_irrefl d hlt
            | tail _ he => exact String.lt_irrefl e (String.lt_trans hlt (hafter _ e he))
          exact iff_of_true List.mem_cons_self
            ⟨List.mem_cons_self, h, fun e he hlt => absurd hlt (hearlier e he)⟩
        · rw [List.mem_cons, List.mem_cons, List.forall_mem_cons, ih hsorted, free_cons_iff]
          simp only [hd, false_or, and_assoc]
          refine and_congr_right fun hmem => and_congr_right fun _ => and_congr_left fun _ => ?_
          exact ⟨fun hname _ => hname, fun hname => hname (hfirst d hmem)⟩
      · rw [listedOf_cons_passed h]
        by_cases hd : d = d₀
        · subst hd
          have hnot : d ∉ listedOf (verdicts taken ds) :=
            fun hmem => String.lt_irrefl d (hafter taken d hmem)
          simp [hnot, h]
        · rw [List.mem_cons, ih hsorted]
          simp only [hd, false_or]

theorem lowerName_ne_empty {d : String} (h : safeName (token d) ≠ "") : lowerName d ≠ "" := by
  have hsafe : SafeName (safeName (token d)) := safeName_of_isEmpty_false (by simpa using h)
  intro hempty
  have hlower := congrArg String.toList hempty
  rw [lowerName, hsafe.toList_lower] at hlower
  exact hsafe.toList_ne_nil (List.map_eq_nil_iff.1 hlower)

/-- **Of all directories of one name** the first is listed, if the name is free. -/
theorem exists_first_listed {taken ds : List String} (hsorted : ds.Pairwise (· ≤ ·)) {d : String}
    (hd : d ∈ ds) (hfree : Free taken d) :
    ∃ first ∈ listedOf (verdicts taken ds), lowerName first = lowerName d ∧
      ∀ e ∈ ds, lowerName e = lowerName d → first ≤ e := by
  induction ds generalizing taken with
  | nil => cases hd
  | cons d₀ ds ih =>
      obtain ⟨hfirst, hsorted⟩ := List.pairwise_cons.1 hsorted
      by_cases hname : lowerName d₀ = lowerName d
      · have hfree₀ : Free taken d₀ := by
          constructor
          · intro hempty
            refine lowerName_ne_empty hfree.1 ?_
            rw [← hname, lowerName, hempty]
            rfl
          · rw [hname]
            exact hfree.2
        -- the name is free for the first that has it, and the rest come later
        rw [listedOf_cons_listed hfree₀]
        refine ⟨d₀, List.mem_cons_self, hname, List.forall_mem_cons.2 ⟨fun _ => ?_, ?_⟩⟩
        · exact String.le_refl d₀
        · exact fun e he _ => hfirst e he
      · have hd : d ∈ ds := (List.mem_cons.1 hd).resolve_left fun heq => hname (by rw [heq])
        by_cases h : Free taken d₀
        · rw [listedOf_cons_listed h]
          obtain ⟨first, hmem, hsame, hle⟩ := ih hsorted hd (free_cons_iff.2 ⟨hfree, hname⟩)
          exact ⟨first, List.mem_cons_of_mem _ hmem, hsame,
            List.forall_mem_cons.2 ⟨fun heq => absurd heq hname, hle⟩⟩
        · rw [listedOf_cons_passed h]
          obtain ⟨first, hmem, hsame, hle⟩ := ih hsorted hd hfree
          exact ⟨first, hmem, hsame, List.forall_mem_cons.2 ⟨fun heq => absurd heq hname, hle⟩⟩

/-! ## The whole discovery -/

/-- The locales found are those of the directories listed. -/
theorem filterMap_foundIn (catalogFile : String) (taken ds : List String) :
    (verdicts taken ds).filterMap (foundIn resources catalogFile) =
      (listedOf (verdicts taken ds)).map fun d =>
        (Locale.ofDirectory d, (resources.entry d).child catalogFile) := by
  induction ds generalizing taken with
  | nil => rfl
  | cons d ds ih =>
      by_cases h : Free taken d
      · rw [listedOf_cons_listed h, verdicts_listed (verdict_of_free h)]
        simp [foundIn, ← ih, lowerName]
      · rw [listedOf_cons_passed h, verdicts_passed (verdict_ne_listed h), ← ih,
          List.filterMap_cons_none]
        unfold foundIn
        split
        · next l hl => exact absurd (Prod.mk.inj hl).2 (verdict_ne_listed h l)
        · rfl

def warnings (resources : Path) (vs : List (String × Verdict)) : Log :=
  vs.flatMap fun v => warningOf (resources.entry v.1) v.2

/-- A name with something safe in it serves for the default locale. -/
theorem exists_default {name : String} (h : safeName name ≠ "") :
    ∃ default, Locale.default? name = some default ∧ default.name = safeName name ∧
      default.code = Locale.defaultCode := by
  simp [Locale.default?, h]

def listedIn (t : FileTree) (resources : Path) (default : Locale) : List String :=
  listedOf (verdicts (reserved default) (candidates t resources).1)

/-- The names taken from the start are the word `default` and the default locale's name. -/
theorem mem_reserved_iff {default : Locale} (hdefault : default.isDefault = true) {name : String} :
    name ∈ reserved default ↔ name = lower default.name ∨ name = "default" := by
  rw [reserved, Locale.memberName_of_isDefault hdefault, lower_default]
  simp

/-- A discovery that is not stopped returns the directories that are listed. -/
theorem discover_eq_ok {default : Locale} {defaultName catalogFile : String}
    (hdefault : Locale.default? defaultName = some default)
    (h : ¬ Unsearchable t resources) : ∃ found message,
      discover t resources defaultName catalogFile =
        (.ok found, warnings resources (verdicts (reserved default) (candidates t resources).1) ++
          [report .info message]) ∧
      found.default = (default, (resources.entry defaultDirectory).child catalogFile) ∧
      found.others = (listedIn t resources default).map fun d =>
        (Locale.ofDirectory d, (resources.entry d).child catalogFile) := by
  unfold discover
  rw [hdefault]
  dsimp only
  rw [(candidates_spec h).1, filterMap_foundIn]
  exact ⟨_, _, rfl, rfl, rfl⟩

end Discovery

end StringCatalog
