import StringCatalog.Proofs.LongWays
import StringCatalog.Proofs.Verdicts

/-!
# StringCatalog.Proofs.Accounting

Every directory of a locale is accounted for by the discovery: it is listed, or
one warning says that it is ignored.

* `length_filter_warnings` — what is reported of one directory;
* `mem_listedIn_iff` — a directory is listed unless there is a reason against it
  (`Passed`);
* `discover_accounts` — both for a whole discovery (`Accounts`), in whatever
  order the directory gives its names.
-/

namespace StringCatalog

open Text FileTree

namespace Discovery

variable {t t' : FileTree} {resources : Path}

/-! ## What is reported of a directory -/

/-- Why a directory is ignored, in words. -/
def Verdict.reason? : Verdict → Option String
  | .listed _ => none
  | .noToken => some "no locale token after 'values-'"
  | .noName => some "no usable locale name"
  | .nameTaken name => some ("locale name " ++ name ++ " is already in use")

def ignoring (p : Path) (reason : String) : Record :=
  report .warning ("Ignoring " ++ p.text ++ ": " ++ reason)

/-- The warning of a verdict is its reason, if there is one, behind the path. -/
theorem warningOf_eq (p : Path) (v : Verdict) :
    warningOf p v = v.reason?.toList.map (ignoring p) := by
  cases v with
  | listed l => rfl
  | noToken => simp [warningOf, Verdict.reason?, ignoring, String.append_assoc]
  | noName => simp [warningOf, Verdict.reason?, ignoring, String.append_assoc]
  | nameTaken name => simp [warningOf, Verdict.reason?, ignoring, String.append_assoc]; rfl

/-- Whether a record is a warning that a path is ignored: behind the path and a colon there stands a
reason, in which there is no colon. -/
def isAbout (p : Path) (r : Record) : Bool :=
  let start := ("Ignoring " ++ p.text ++ ": ").toList
  r.level = .warning && start.isPrefixOf r.message.toList &&
    !(r.message.toList.drop start.length).contains ':'

theorem eq_nil_of_cons_eq {α : Type} {a : α} {between ys ys' : List α} (hys : a ∉ ys)
    (h : a :: ys = between ++ a :: ys') : between = [] := by
  cases between with
  | nil => rfl
  | cons b between =>
      rw [List.cons_append, List.cons.injEq] at h
      exact absurd (by simp [h.2]) hys

/-- A list is taken apart in one way at the last place of a member. -/
theorem eq_of_append_cons {α : Type} {a : α} {xs xs' ys ys' : List α} (hys : a ∉ ys)
    (hys' : a ∉ ys') (h : xs ++ a :: ys = xs' ++ a :: ys') : xs = xs' := by
  rcases List.append_eq_append_iff.1 h with ⟨between, hxs, htail⟩ | ⟨between, hxs, htail⟩
  · rw [hxs, eq_nil_of_cons_eq hys htail, List.append_nil]
  · rw [hxs, eq_nil_of_cons_eq hys' htail, List.append_nil]

/-- A warning is about the path that stands in it and about no other, since its reason has no
colon. -/
theorem isAbout_ignoring {p p' : Path} {reason : String} (hreason : ':' ∉ reason.toList) :
    isAbout p (ignoring p' reason) = true ↔ p.text = p'.text := by
  have hmessage : (ignoring p' reason).message.toList =
      "Ignoring ".toList ++ p'.text.toList ++ ':' :: ' ' :: reason.toList := by
    simp [ignoring, report]
  have hstart : ("Ignoring " ++ p.text ++ ": ").toList =
      "Ignoring ".toList ++ p.text.toList ++ [':', ' '] := by
    simp
  rw [isAbout, hmessage, hstart]
  constructor
  · intro h
    simp only [Bool.and_eq_true, List.isPrefixOf_iff_prefix] at h
    obtain ⟨⟨-, rest, hrest⟩, hcolon⟩ := h
    have hrest' : "Ignoring ".toList ++ p.text.toList ++ ':' :: ' ' :: rest =
        "Ignoring ".toList ++ p'.text.toList ++ ':' :: ' ' :: reason.toList := by
      simpa using hrest
    rw [← hrest, List.drop_left] at hcolon
    -- a path may have colons in it, but the last one stands before the reason
    have htext := eq_of_append_cons (by simpa using hcolon) (by simpa using hreason) hrest'
    exact String.toList_injective (List.append_cancel_left htext)
  · intro h
    simp [h, ignoring, report, hreason]

/-- No reason has a colon in it, not even one that shows the name of a directory. -/
theorem colon_not_mem_reason {taken : List String} {d : String} {reason : String}
    (h : (verdict taken d).reason? = some reason) : ':' ∉ reason.toList := by
  unfold verdict at h
  dsimp only at h
  split at h
  · cases h
    decide
  · split at h
    · cases h
      decide
    · next hname =>
      split at h
      · cases h
        have hsafe := safeName_ofDirectory (by simpa using hname)
        have hcolon : ':' ∉ (Locale.ofDirectory d).name.toList :=
          fun hmem => absurd (hsafe.nameChars _ hmem) (by decide)
        simpa using hcolon
      · cases h

/-- Of the reports on directories, those on one of them. -/
theorem filter_warningOf {taken : List String} {d e : String} :
    (warningOf (resources.entry e) (verdict taken e)).filter (isAbout (resources.entry d)) =
      if e = d then warningOf (resources.entry d) (verdict taken d) else [] := by
  rw [warningOf_eq]
  split
  · next h =>
    subst h
    rw [warningOf_eq, List.filter_eq_self]
    simp only [List.mem_map, Option.mem_toList]
    rintro _ ⟨reason, hreason, rfl⟩
    exact (isAbout_ignoring (colon_not_mem_reason hreason)).2 rfl
  · next h =>
    rw [List.filter_eq_nil_iff]
    simp only [List.mem_map, Option.mem_toList]
    rintro _ ⟨reason, hreason, rfl⟩
    rw [isAbout_ignoring (colon_not_mem_reason hreason)]
    exact fun htext => h (text_entry_inj htext).symm

/-- A directory that is free is passed over in silence. -/
theorem warnings_cons_listed {taken : List String} {d : String} (h : Free taken d)
    (ds : List String) :
    warnings resources (verdicts taken (d :: ds)) =
      warnings resources (verdicts (lowerName d :: taken) ds) := by
  rw [verdicts_listed (verdict_of_free h)]
  rfl

/-- A directory that is not free leaves its warning before those of the rest. -/
theorem warnings_cons_passed {taken : List String} {d : String} (h : ¬ Free taken d)
    (ds : List String) :
    warnings resources (verdicts taken (d :: ds)) =
      warningOf (resources.entry d) (verdict taken d) ++
        warnings resources (verdicts taken ds) := by
  rw [verdicts_passed (verdict_ne_listed h)]
  rfl

/-- There is exactly one warning for a directory that is not free. -/
theorem length_warningOf {taken : List String} {d : String} (h : ¬ Free taken d) (p : Path) :
    (warningOf p (verdict taken d)).length = 1 := by
  cases hv : verdict taken d with
  | listed l => exact absurd hv (verdict_ne_listed h l)
  | _ => rfl

/-- **One warning** names each directory that is not listed, and none any other name. -/
theorem length_filter_warnings {taken ds : List String} (hnodup : ds.Nodup) (d : String) :
    ((warnings resources (verdicts taken ds)).filter (isAbout (resources.entry d))).length =
      if d ∈ ds ∧ d ∉ listedOf (verdicts taken ds) then 1 else 0 := by
  induction ds generalizing taken with
  | nil => simp [verdicts, warnings]
  | cons d₀ ds ih =>
      obtain ⟨hd₀, hnodup⟩ := List.nodup_cons.1 hnodup
      by_cases h : Free taken d₀
      · rw [listedOf_cons_listed h, warnings_cons_listed h, ih hnodup]
        by_cases hd : d = d₀
        · simp [hd, hd₀]
        · simp [hd]
      · -- no name comes twice, so nothing more is said of this directory
        have hnot : d₀ ∉ listedOf (verdicts taken ds) :=
          fun hmem => hd₀ ((listedOf_sublist taken ds).mem hmem)
        rw [listedOf_cons_passed h, warnings_cons_passed h, List.filter_append, List.length_append,
          filter_warningOf, ih hnodup]
        by_cases hd : d = d₀
        · simp [hd, hd₀, hnot, length_warningOf h]
        · simp [hd, Ne.symm hd]

/-! ## The whole discovery -/

/-- Why a directory is ignored when some are listed. -/
inductive Passed (default : Locale) (listed : List String) (d : String) : Prop where
  | noToken (h : token d = "")
  | noName (h : safeName (token d) = "")
  | defaultMember (h : lowerName d = "default")
  | defaultName (h : lowerName d = lower default.name)
  | earlier {e : String} (he : e ∈ listed) (hlt : e < d) (h : lowerName e = lowerName d)

/-- There is no reason to ignore a directory exactly if its name is free and no listed directory
before it has that name. -/
theorem not_passed_iff {default : Locale} (hdefault : default.isDefault = true)
    {listed : List String} {d : String} :
    ¬ Passed default listed d ↔ Free (reserved default) d ∧
      ∀ e ∈ listed, e < d → lowerName e ≠ lowerName d := by
  rw [Free, mem_reserved_iff hdefault]
  constructor
  · intro h
    exact ⟨⟨fun hname => h (.noName hname),
      fun htaken => htaken.elim (h ∘ .defaultName) (h ∘ .defaultMember)⟩,
      fun e he hlt heq => h (.earlier he hlt heq)⟩
  · rintro ⟨⟨hname, htaken⟩, hearlier⟩ h
    cases h with
    | noToken h => exact hname (by rw [h]; rfl)
    | noName h => exact hname h
    | defaultMember h => exact htaken (.inr h)
    | defaultName h => exact htaken (.inl h)
    | earlier he hlt h => exact hearlier _ he hlt h

section Searched

variable {default : Locale} (hdistinct : t.Distinct) (h : ¬ Unsearchable t resources)
include hdistinct h

theorem pairwise_candidates : (candidates t resources).1.Pairwise (· < ·) :=
  (pairwise_namesAt hdistinct _).sublist (candidates_spec h).2.1

theorem nodup_candidates : (candidates t resources).1.Nodup := by
  refine (pairwise_candidates hdistinct h).imp fun {d e} hlt heq => ?_
  rw [heq] at hlt
  exact String.lt_irrefl e hlt

theorem pairwise_listedIn : (listedIn t resources default).Pairwise (· < ·) :=
  (pairwise_candidates hdistinct h).sublist (listedOf_sublist _ _)

/-- The directories listed are those of locales that there is no reason to ignore. -/
theorem mem_listedIn_iff (hdefault : default.isDefault = true) {d : String} :
    d ∈ listedIn t resources default ↔
      IsLocaleDirectory t resources d ∧ ¬ Passed default (listedIn t resources default) d := by
  rw [not_passed_iff hdefault, listedIn, mem_listed_iff (pairwise_candidates hdistinct h),
    (candidates_spec h).2.2]

/-- The warnings about a directory, counted: one if it is a locale's and not listed, otherwise
none. -/
theorem length_filter_candidates (d : String) :
    ((warnings resources (verdicts (reserved default) (candidates t resources).1)).filter
      (isAbout (resources.entry d))).length =
        if IsLocaleDirectory t resources d ∧ d ∉ listedIn t resources default then 1 else 0 := by
  rw [length_filter_warnings (nodup_candidates hdistinct h)]
  exact if_congr (and_congr_left fun _ => (candidates_spec h).2.2 d) rfl rfl

end Searched

end Discovery

namespace Compilation

open Discovery

variable {t : FileTree} {s : Settings}

/-- What a discovery returns and reports: the default locale, the locales of the directories that
are listed, and one warning for each that is not. -/
structure Accounts (t : FileTree) (s : Settings) (found : Discovered) (listed : List String)
    (log : Log) : Prop where
  default_name : found.default.1.name = safeName s.defaultLocaleName
  default_code : found.default.1.code = Locale.defaultCode
  default_path : found.default.2 = (s.resourcesDir.entry defaultDirectory).child s.catalogFile
  only_default : found.all.filter (·.1.isDefault) = [found.default]
  others : found.others = listed.map fun d =>
    (Locale.ofDirectory d, (s.resourcesDir.entry d).child s.catalogFile)
  own : ∀ d ∈ listed, (Locale.ofDirectory d).name = safeName (token d) ∧
    (Locale.ofDirectory d).code = lower (token d)
  sorted : listed.Pairwise (· < ·)
  names_apart : (found.all.map fun f => lower f.1.name).Nodup
  /-- A directory is listed unless there is a reason against it. -/
  mem_listed_iff : ∀ d, d ∈ listed ↔
    IsLocaleDirectory t s.resourcesDir d ∧ ¬ Passed found.default.1 listed d
  /-- If there is one, a single warning names it. -/
  warned : ∀ d, IsLocaleDirectory t s.resourcesDir d → Passed found.default.1 listed d →
    (log.filter (isAbout (s.resourcesDir.entry d))).length = 1
  /-- No warning names anything else. -/
  silent : ∀ d, ¬ (IsLocaleDirectory t s.resourcesDir d ∧ Passed found.default.1 listed d) →
    log.filter (isAbout (s.resourcesDir.entry d)) = []

/-- The default locale is found once. -/
theorem Discovers.only_default {found : Discovered} (h : Discovers t s found) :
    found.all.filter (·.1.isDefault) = [found.default] := by
  have hothers : found.others.filter (·.1.isDefault) = [] := by
    rw [List.filter_eq_nil_iff]
    intro f hf
    simp [h.isDefault.2 f hf]
  simp [Discovered.all, h.isDefault.1, hothers]

/-- No two locales found have names that differ in case only. -/
theorem Discovers.names_apart {found : Discovered} (h : Discovers t s found) :
    (found.all.map fun f => lower f.1.name).Nodup := by
  have hnodup := (discover_spec h).1.lower_nodup
  rw [List.map_cons, List.map_map] at hnodup
  exact hnodup

/-- Where every name can be looked at, the discovery returns something and accounts for every
directory. -/
theorem exists_accounts (hdistinct : t.Distinct) (hname : safeName s.defaultLocaleName ≠ "")
    (h : ¬ Unsearchable t s.resourcesDir) : ∃ found listed, Discovers t s found ∧
      Accounts t s found listed
        (discover t s.resourcesDir s.defaultLocaleName s.catalogFile).2 := by
  obtain ⟨default, hdefault, hdefaultName, hdefaultCode⟩ := exists_default hname
  have hisDefault := (default?_eq_some hdefault).1
  obtain ⟨found, message, hdiscover, hfirst, hothers⟩ := discover_eq_ok hdefault h
  have hfound : Discovers t s found := congrArg Prod.fst hdiscover
  have hlisted := fun d => mem_listedIn_iff hdistinct h hisDefault (d := d)
  have hlength : ∀ d, ((discover t s.resourcesDir s.defaultLocaleName s.catalogFile).2.filter
      (isAbout (s.resourcesDir.entry d))).length = if IsLocaleDirectory t s.resourcesDir d ∧
        d ∉ listedIn t s.resourcesDir default then 1 else 0 := by
    intro d
    have hinfo : isAbout (s.resourcesDir.entry d) (Discovery.report .info message) = false := by
      simp [isAbout, Discovery.report]
    rw [hdiscover, ← length_filter_candidates hdistinct h]
    simp [hinfo]
  refine ⟨found, listedIn t s.resourcesDir default, hfound, ?_⟩
  have hfst : found.default.1 = default := by rw [hfirst]
  exact {
    default_name := by rw [hfst, hdefaultName]
    default_code := by rw [hfst, hdefaultCode]
    default_path := by rw [hfirst]
    only_default := hfound.only_default
    others := hothers
    own := fun d _ => ⟨rfl, rfl⟩
    sorted := pairwise_listedIn hdistinct h
    names_apart := hfound.names_apart
    mem_listed_iff := fun d => by rw [hfst, ← hlisted]
    warned := fun d hd hpassed => by
      have hnot : d ∉ listedIn t s.resourcesDir default :=
        fun hmem => ((hlisted d).1 hmem).2 (hfst ▸ hpassed)
      rw [hlength, if_pos ⟨hd, hnot⟩]
    silent := fun d hnot => by
      rw [← List.length_eq_zero_iff, hlength, if_neg]
      exact fun hd => hd.2 ((hlisted d).2 ⟨hd.1, fun hpassed => hnot ⟨hd.1, hfst ▸ hpassed⟩⟩) }

/-- **Every directory of a locale is accounted for**, if the file system says which names are those
of directories; otherwise its refusal ends the discovery.  The order in which it gives the names
makes no difference. -/
theorem discover_accounts (hdistinct : t.Distinct) (hname : safeName s.defaultLocaleName ≠ "") :
    (∀ t', Reorders t t' →
      discover t' s.resourcesDir s.defaultLocaleName s.catalogFile =
        discover t s.resourcesDir s.defaultLocaleName s.catalogFile) ∧
    (Unsearchable t s.resourcesDir →
      (discover t s.resourcesDir s.defaultLocaleName s.catalogFile).1 =
        .error (.file .nameTooLong)) ∧
    (¬ Unsearchable t s.resourcesDir → ∃ found listed, Discovers t s found ∧
      Accounts t s found listed
        (discover t s.resourcesDir s.defaultLocaleName s.catalogFile).2) :=
  ⟨fun t' hreorders => by simp only [discover, candidates_of_reorders hreorders hdistinct],
    discover_of_unsearchable hname, exists_accounts hdistinct hname⟩

/-- A tree with two directories whose names differ in case only, the first of them empty. -/
def twoCases : FileTree where
  workingDir := []
  entries := [
    (["res"], .directory),
    (["res", "values"], .directory),
    (["res", "values", "strings.xml"], .file "<resources/>".toUTF8),
    (["res", "values-DE"], .directory),
    (["res", "values-de"], .directory),
    (["res", "values-de", "strings.xml"], .file "<resources/>".toUTF8)]

/-- Both directories stand for a locale, and upper case comes first. -/
theorem candidates_twoCases :
    candidates twoCases resSettings.resourcesDir = (["values-DE", "values-de"], .ok ()) := by
  have hsorted : sortNames ["values", "values-DE", "values-de"] =
      ["values", "values-DE", "values-de"] := List.mergeSort_of_pairwise (by decide)
  have hnames : twoCases.names resSettings.resourcesDir =
      .ok (sortNames ["values", "values-DE", "values-de"]) := rfl
  have hdir : twoCases.isDirectory? resSettings.resourcesDir = .ok true := rfl
  rw [candidates, hdir, hnames, hsorted]
  rfl

theorem discover_accounts_twoCases :
    twoCases.Distinct ∧ safeName resSettings.defaultLocaleName ≠ "" ∧
      ∃ found listed, Discovers twoCases resSettings found ∧
        Accounts twoCases resSettings found listed
          (discover twoCases resSettings.resourcesDir resSettings.defaultLocaleName
            resSettings.catalogFile).2 := by
  have hdistinct : twoCases.Distinct := by
    unfold FileTree.Distinct
    decide
  have hname : safeName resSettings.defaultLocaleName ≠ "" := by decide
  have hsearch : ¬ Unsearchable twoCases resSettings.resourcesDir := by
    intro h
    have hcandidates := candidates_eq_error_iff.2 ⟨rfl, h⟩
    rw [candidates_twoCases] at hcandidates
    cases hcandidates
  exact ⟨hdistinct, hname, (discover_accounts hdistinct hname).2.2 hsearch⟩

/-! ## Paths that are too long -/

/-- A way to `res` that is about as long as a path may be. -/
def longWay : Path := turning "res" 584

/-- Settings by which the resources are at the end of that way. -/
def longWaySettings : Settings := {resSettings with resourcesDir := longWay}

/-- The way leads to the resources. -/
theorem isDirectory?_longWay : twoLocales.isDirectory? longWay = .ok true ∧
    twoLocales.target longWay = ["res"] :=
  isDirectory?_turning rfl (by decide) (by decide) (by decide) rfl (by decide)

/-- One name more and it is too long. -/
theorem isDirectory?_entry_longWay :
    twoLocales.isDirectory? (longWay.entry "values-de") = .error .nameTooLong := by
  refine (test_entry_eq_error_iff isDirectory?_longWay.1 (by decide)).2
    ⟨null_not_mem_entry_turning (by decide) (by decide), fun hreaches => ?_⟩
  have hlength := ((reaches_turning_iff (by decide) (by decide)).1 hreaches).1
  exact absurd hlength (by decide)

/-- There is a directory of a locale at the end of a way that is just short enough.  With the name
of that directory behind it the way is too long: the question what is there is refused, and this
ends the discovery. -/
theorem not_accounted_long_way :
    safeName longWaySettings.defaultLocaleName ≠ "" ∧
      twoLocales.isDirectory? longWaySettings.resourcesDir = .ok true ∧
      "values-de" ∈ twoLocales.namesAt (twoLocales.target longWaySettings.resourcesDir) ∧
      twoLocales.entryAt (twoLocales.target longWaySettings.resourcesDir ++ ["values-de"]) =
        some .directory ∧
      (discover twoLocales longWaySettings.resourcesDir longWaySettings.defaultLocaleName
        longWaySettings.catalogFile).1 = .error (.file .nameTooLong) := by
  have hname : safeName longWaySettings.defaultLocaleName ≠ "" := by decide
  obtain ⟨hdir, htarget⟩ := isDirectory?_longWay
  have hentry : twoLocales.entryAt (twoLocales.target longWay ++ ["values-de"]) =
      some .directory := by
    rw [htarget]
    rfl
  have hmem : "values-de" ∈ twoLocales.namesAt (twoLocales.target longWay) :=
    mem_namesAt.2 (by simp [hentry])
  exact ⟨hname, hdir, hmem, hentry, discover_of_unsearchable hname
    (.inr ⟨hdir, _, hmem, isDirectory?_entry_longWay⟩)⟩

end Compilation

end StringCatalog
