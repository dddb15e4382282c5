import StringCatalog.Proofs.Directories
import StringCatalog.Proofs.Pool
import StringCatalog.Proofs.Wiring

/-!
# StringCatalog.Proofs.Endings

How a compilation ends, whatever there is in the tree.  Three passes decide it,
one after the other: the search for locales, the question which of their
catalogs are there, and the reading of those.

* `candidates_eq_error_iff`, `survey_of_answered` — the first two passes, and
  what the file system refuses to say;
* `loadAll_eq_mapM` — the third as work on a list, which workers may share;
* `compile_eq_error_iff`, `compile_eq_ok_iff` — the reasons for failing (`Fails`),
  the first of which counts, and what a success returns (`Compiles`);
* `filter_compile_log` — one warning for every locale that is left out;
* `compile_decided` — all of it.
-/

namespace StringCatalog

open FileTree

/-! ## Questions that are refused -/

namespace FileTree

variable {t : FileTree} {p : Path}

theorem Fits.exists?_eq_error (h : Fits p)
    (hwalk : t.walk (t.start p) p.names = .error .nameTooLong) :
    t.exists? p = .error .nameTooLong := by
  rw [exists?, test, find, h.locate_eq_walk, hwalk]
  rfl

end FileTree

namespace Discovery

variable {t : FileTree} {resources : Path}

/-- A name serves for the default locale unless nothing safe is left of it. -/
theorem default?_eq_none_iff {name : String} :
    Locale.default? name = none ↔ safeName name = "" := by
  unfold Locale.default?
  dsimp only
  split
  · next h => simpa using h
  · next h => simpa using h

/-- Whether a directory cannot be searched for those of locales: the file system does not say
whether it is a directory, or whether something in it is one. -/
def Unsearchable (t : FileTree) (resources : Path) : Prop :=
  t.isDirectory? resources = .error .nameTooLong ∨
    t.isDirectory? resources = .ok true ∧ ∃ name ∈ t.namesAt (t.target resources),
      t.isDirectory? (resources.entry name) = .error .nameTooLong

/-- The search among some names is refused exactly if one of them makes the path too long. -/
theorem candidatesAmong_eq_error_iff {names : List String} {e : FileError} :
    (candidatesAmong t resources names).2 = .error e ↔
      e = .nameTooLong ∧ ∃ name ∈ names, t.isDirectory? (resources.entry name) = .error e := by
  induction names with
  | nil => simp [candidatesAmong]
  | cons name names ih =>
      rw [candidatesAmong]
      split
      · next e' h =>
        obtain rfl := eq_nameTooLong_of_test h
        constructor
        · rintro ⟨⟩
          exact ⟨rfl, name, List.mem_cons_self, h⟩
        · rintro ⟨rfl, -⟩
          rfl
      · next b h =>
        dsimp only
        rw [ih]
        simp [h]

/-- The search of the resources is refused exactly if they are unsearchable. -/
theorem candidates_eq_error_iff {e : FileError} :
    (candidates t resources).2 = .error e ↔ e = .nameTooLong ∧ Unsearchable t resources := by
  unfold candidates Unsearchable
  split
  · next e' h =>
    obtain rfl := eq_nameTooLong_of_test h
    simp [h, eq_comm]
  · next h => simp [h]
  · next h =>
    rw [names_of_isDirectory? h]
    dsimp only
    rw [candidatesAmong_eq_error_iff]
    simp only [h, reduceCtorEq, false_or, true_and]
    exact and_congr_right fun he => by rw [he]

end Discovery

namespace Compilation

open Discovery

variable {t : FileTree} {s : Settings}

/-! ## Which catalogs are there -/

def isPresent (t : FileTree) (f : Locale × Path) : Bool :=
  match t.exists? f.2 with
  | .ok b => b
  | .error _ => false

def present (t : FileTree) (fs : List (Locale × Path)) : List (Locale × Path) :=
  fs.filter (isPresent t)

def missing (t : FileTree) (fs : List (Locale × Path)) : List Skipped :=
  (fs.filter fun f => !isPresent t f).map fun f => ⟨f.1, f.2⟩

/-- What is reported of a locale whose catalog is not there. -/
def missingReport (k : Skipped) : Record :=
  report .warning ("Locale file does not exist: " ++ k.path.text)

/-- Whether the file system says of every catalog whether it is there. -/
def Answered (t : FileTree) (fs : List (Locale × Path)) : Prop :=
  ∀ f ∈ fs, t.exists? f.2 ≠ .error .nameTooLong

/-- A path leads to something, to nothing, or is too long to tell. -/
theorem exists?_cases (t : FileTree) (p : Path) :
    t.exists? p = .ok true ∨ t.exists? p = .ok false ∨ t.exists? p = .error .nameTooLong := by
  cases h : t.exists? p with
  | ok b => cases b <;> simp
  | error e =>
      obtain rfl := eq_nameTooLong_of_test h
      simp

/-- Where the file system answers for every path, the survey parts what is present from what is
missing. -/
theorem survey_of_answered {fs : List (Locale × Path)} (hothers : ∀ f ∈ fs, f.1.isDefault = false)
    (h : Answered t fs) :
    survey t fs = (.ok (present t fs, missing t fs), (missing t fs).map missingReport) := by
  induction fs with
  | nil => rfl
  | cons f fs ih =>
      obtain ⟨l, p⟩ := f
      rw [List.forall_mem_cons] at hothers
      obtain ⟨hp, hrest⟩ := List.forall_mem_cons.1 h
      rw [survey, ih hothers.2 hrest]
      rcases exists?_cases t p with hexists | hexists | hexists
      · simp [hexists, present, missing, isPresent, Except.map]
      · have hl : l.isDefault = false := hothers.1
        simp [hexists, hl, present, missing, isPresent, Except.map, missingReport]
      · exact absurd hexists hp

/-- Where it refuses to answer for one of them, the survey fails. -/
theorem survey_of_not_answered {fs : List (Locale × Path)}
    (hothers : ∀ f ∈ fs, f.1.isDefault = false) (h : ¬ Answered t fs) :
    (survey t fs).1 = .error (.file .nameTooLong) := by
  induction fs with
  | nil => exact absurd (fun _ hf => nomatch hf) h
  | cons f fs ih =>
      obtain ⟨l, p⟩ := f
      rw [List.forall_mem_cons] at hothers
      have hl : l.isDefault = false := hothers.1
      rw [survey]
      rcases exists?_cases t p with hexists | hexists | hexists
      · have hrest := ih hothers.2 fun hrest => h (List.forall_mem_cons.2 ⟨by simp [hexists], hrest⟩)
        simp [hexists, hrest, Except.map]
      · have hrest := ih hothers.2 fun hrest => h (List.forall_mem_cons.2 ⟨by simp [hexists], hrest⟩)
        simp [hexists, hl, hrest, Except.map]
      · simp [hexists]

/-! ## Reading the catalogs -/

/-- A locale with the catalog at its path. -/
def readCatalog (t : FileTree) (f : Locale × Path) : Except Failure (Locale × Path × Catalog) :=
  match (Catalog.load t f.2).1 with
  | .ok c => .ok (f.1, f.2, c)
  | .error cause => .error (.compile (.badCatalog f.2 cause))

/-- The catalog of a locale is read exactly if it is loaded from its path. -/
theorem readCatalog_eq_ok_iff {f : Locale × Path} {e : Locale × Path × Catalog} :
    readCatalog t f = .ok e ↔ (e.1, e.2.1) = f ∧ (Catalog.load t e.2.1).1 = .ok e.2.2 := by
  obtain ⟨l, p⟩ := f
  obtain ⟨l', p', c⟩ := e
  unfold readCatalog
  dsimp only
  split
  · next c' hload =>
    simp only [Except.ok.injEq, Prod.mk.injEq]
    constructor
    · rintro ⟨rfl, rfl, rfl⟩
      exact ⟨⟨rfl, rfl⟩, hload⟩
    · rintro ⟨⟨rfl, rfl⟩, hload'⟩
      rw [hload] at hload'
      exact ⟨rfl, rfl, Except.ok.inj hload'⟩
  · next cause hload =>
    refine iff_of_false nofun ?_
    rintro ⟨heq, hload'⟩
    cases heq
    rw [hload] at hload'
    cases hload'

/-- A catalog that cannot be loaded is a failure of the compilation. -/
theorem readCatalog_eq_error_iff {f : Locale × Path} {e : Failure} :
    readCatalog t f = .error e ↔
      ∃ cause, (Catalog.load t f.2).1 = .error cause ∧ e = .compile (.badCatalog f.2 cause) := by
  unfold readCatalog
  split
  · next c hload => simp [hload]
  · next cause hload => simp [hload, eq_comm]

/-- A catalog can be read exactly if it can be loaded. -/
theorem exists_readCatalog_iff {f : Locale × Path} :
    (∃ e, readCatalog t f = .ok e) ↔ ∃ c, (Catalog.load t f.2).1 = .ok c := by
  constructor
  · rintro ⟨e, he⟩
    obtain ⟨rfl, hload⟩ := readCatalog_eq_ok_iff.1 he
    exact ⟨_, hload⟩
  · rintro ⟨c, hload⟩
    exact ⟨(f.1, f.2, c), readCatalog_eq_ok_iff.2 ⟨rfl, hload⟩⟩

/-- The catalogs are those read one after the other, up to the first that cannot be read. -/
theorem loadAll_eq_mapM (fs : List (Locale × Path)) :
    (loadAll t fs).1 = fs.mapM (readCatalog t) := by
  induction fs with
  | nil => rfl
  | cons f fs ih =>
      obtain ⟨l, p⟩ := f
      rw [loadAll]
      split
      · next cause log hload =>
        rw [mapM_cons_error (readCatalog_eq_error_iff.2 ⟨cause, by rw [hload], rfl⟩)]
      · next c log hload =>
        have hread : readCatalog t (l, p) = .ok (l, p, c) :=
          readCatalog_eq_ok_iff.2 ⟨rfl, by rw [hload]⟩
        rw [mapM_cons_ok hread, ← ih]

/-! ## The discovered locales -/

/-- The locales that a compilation finds, each with the path of its catalog. -/
def Discovers (t : FileTree) (s : Settings) (found : Discovered) : Prop :=
  (discover t s.resourcesDir s.defaultLocaleName s.catalogFile).1 = .ok found

/-- A default name with nothing safe in it ends the discovery before anything is looked at. -/
theorem discover_of_unusable (h : safeName s.defaultLocaleName = "") :
    discover t s.resourcesDir s.defaultLocaleName s.catalogFile =
      (.error (.badDefaultName s.defaultLocaleName), []) := by
  rw [discover, default?_eq_none_iff.2 h]

/-- Resources that cannot be searched end the discovery. -/
theorem discover_of_unsearchable (hname : safeName s.defaultLocaleName ≠ "")
    (h : Unsearchable t s.resourcesDir) :
    (discover t s.resourcesDir s.defaultLocaleName s.catalogFile).1 =
      .error (.file .nameTooLong) := by
  have hcandidates := candidates_eq_error_iff.2 ⟨rfl, h⟩
  unfold discover
  split
  · next hdefault => exact absurd (default?_eq_none_iff.1 hdefault) hname
  · dsimp only
    rw [hcandidates]

/-- With a default name and resources that can be searched, locales are found. -/
theorem exists_discovers (hname : safeName s.defaultLocaleName ≠ "")
    (h : ¬ Unsearchable t s.resourcesDir) : ∃ found, Discovers t s found := by
  unfold Discovers discover
  split
  · next hdefault => exact absurd (default?_eq_none_iff.1 hdefault) hname
  · dsimp only
    split
    · next e hcandidates => exact absurd (candidates_eq_error_iff.1 hcandidates).2 h
    · exact ⟨_, rfl⟩

/-- Locales are only found under a usable name, and in a directory that can be searched. -/
theorem Discovers.usable {found : Discovered} (h : Discovers t s found) :
    safeName s.defaultLocaleName ≠ "" ∧ ¬ Unsearchable t s.resourcesDir := by
  have hname : safeName s.defaultLocaleName ≠ "" := by
    intro hname
    rw [Discovers, discover_of_unusable hname] at h
    cases h
  refine ⟨hname, fun hsearch => ?_⟩
  rw [Discovers, discover_of_unsearchable hname hsearch] at h
  cases h

/-- A discovery finds one thing. -/
theorem Discovers.unique {found found' : Discovered} (h : Discovers t s found)
    (h' : Discovers t s found') : found = found' :=
  Except.ok.inj (h.symm.trans h')

/-- Only the default locale is marked as such. -/
theorem Discovers.isDefault {found : Discovered} (h : Discovers t s found) :
    found.default.1.isDefault = true ∧ ∀ f ∈ found.others, f.1.isDefault = false := by
  have hnamed := (discover_spec h).1
  exact ⟨hnamed.default_isDefault,
    fun f hf => hnamed.others_isDefault f.1 (List.mem_map_of_mem hf)⟩

/-! ## How a compilation ends -/

/-- What a compilation of the locales found returns: the locales whose catalogs are there with what
is read from their own paths, and the others, all in the order in which they were found. -/
structure Compiles (t : FileTree) (found : Discovered) (c : Compiled) : Prop where
  answered : Answered t found.all
  default_present : t.exists? found.default.2 = .ok true
  default : c.default = found.default.1
  catalogs : c.catalogs.map (fun e => (e.1, e.2.1)) = present t found.all
  loaded : ∀ e ∈ c.catalogs, (Catalog.load t e.2.1).1 = .ok e.2.2
  skipped : c.skipped = missing t found.all

/-- Why a compilation fails: the first of these that holds. -/
inductive Fails (t : FileTree) (s : Settings) : Failure → Prop where
  | unusable (h : safeName s.defaultLocaleName = "") :
      Fails t s (.compile (.config (.badDefaultName s.defaultLocaleName)))
  | unsearchable (hname : safeName s.defaultLocaleName ≠ "") (h : Unsearchable t s.resourcesDir) :
      Fails t s (.file .nameTooLong)
  | missing {found : Discovered} (hfound : Discovers t s found)
      (h : t.exists? found.default.2 = .ok false) :
      Fails t s (.compile (.missingDefault found.default.2))
  | unanswered {found : Discovered} (hfound : Discovers t s found)
      (hdefault : t.exists? found.default.2 ≠ .ok false) (h : ¬ Answered t found.all) :
      Fails t s (.file .nameTooLong)
  | unread {found : Discovered} {before after : List (Locale × Path)} {f : Locale × Path}
      {cause : ReadCause} (hfound : Discovers t s found)
      (hdefault : t.exists? found.default.2 = .ok true) (hanswered : Answered t found.all)
      (hpresent : present t found.all = before ++ f :: after)
      (hbefore : ∀ g ∈ before, ∃ c, (Catalog.load t g.2).1 = .ok c)
      (h : (Catalog.load t f.2).1 = .error cause) :
      Fails t s (.compile (.badCatalog f.2 cause))

/-- What becomes of a compilation once locales were found. -/
theorem compile_of_discovers {found : Discovered} (h : Discovers t s found) :
    (compile t s).1 =
      match (survey t found.all).1 with
      | .error e => .error e
      | .ok (present, skipped) =>
        (loadAll t present).1.map fun catalogs => ⟨found.default.1, catalogs, skipped⟩ := by
  unfold Discovers at h
  unfold compile
  split
  · next e _ heq =>
    rw [heq] at h
    cases h
  · next found' _ heq =>
    rw [heq] at h
    cases h
    split
    · next hsurvey => rw [hsurvey]
    · next hsurvey => rw [hsurvey]

/-- A discovery that fails ends the compilation. -/
theorem compile_of_discovery_error {e : DiscoveryError}
    (h : (discover t s.resourcesDir s.defaultLocaleName s.catalogFile).1 = .error e) :
    (compile t s).1 = .error (.ofDiscovery e) := by
  unfold compile
  split
  · next e' _ heq =>
    rw [heq] at h
    cases h
    rfl
  · next found' _ heq =>
    rw [heq] at h
    cases h

/-- The survey of what was found, if the default catalog is there and the file system answers. -/
theorem survey_all {found : Discovered} (hfound : Discovers t s found)
    (hdefault : t.exists? found.default.2 = .ok true) (hanswered : Answered t found.all) :
    survey t found.all =
      (.ok (present t found.all, missing t found.all), (missing t found.all).map missingReport) := by
  obtain ⟨⟨l, p⟩, others⟩ := found
  have hp : t.exists? p = .ok true := hdefault
  have hrest := survey_of_answered hfound.isDefault.2 (List.forall_mem_cons.1 hanswered).2
  dsimp only at hrest
  simp [Discovered.all, survey, hp, hrest, present, missing, isPresent, Except.map]

/-- When the catalogs can be told, a compilation is the reading of those that are there. -/
theorem compile_of_answered {found : Discovered} (hfound : Discovers t s found)
    (hdefault : t.exists? found.default.2 = .ok true) (hanswered : Answered t found.all) :
    (compile t s).1 = ((present t found.all).mapM (readCatalog t)).map fun catalogs =>
      ⟨found.default.1, catalogs, missing t found.all⟩ := by
  rw [compile_of_discovers hfound, survey_all hfound hdefault hanswered]
  dsimp only
  rw [loadAll_eq_mapM]

/-- Each reason to fail is the failure that the compilation ends with. -/
theorem Fails.compile {e : Failure} (h : Fails t s e) : (compile t s).1 = .error e := by
  cases h with
  | unusable h => exact compile_of_discovery_error (congrArg Prod.fst (discover_of_unusable h))
  | unsearchable hname h => exact compile_of_discovery_error (discover_of_unsearchable hname h)
  | @missing found hfound h =>
      obtain ⟨⟨l, p⟩, others⟩ := found
      have hl : l.isDefault = true := hfound.isDefault.1
      have hp : t.exists? p = .ok false := h
      rw [compile_of_discovers hfound]
      simp [Discovered.all, survey, hp, hl]
  | @unanswered found hfound hdefault h =>
      obtain ⟨⟨l, p⟩, others⟩ := found
      rw [compile_of_discovers hfound]
      rcases exists?_cases t p with hp | hp | hp
      · have hrest := survey_of_not_answered (t := t) hfound.isDefault.2 fun hrest =>
          h (List.forall_mem_cons.2 ⟨by simp [hp], hrest⟩)
        dsimp only at hrest
        simp [Discovered.all, survey, hp, hrest, Except.map]
      · exact absurd hp hdefault
      · simp [Discovered.all, survey, hp]
  | @unread found before after f cause hfound hdefault hanswered hpresent hbefore h =>
      rw [compile_of_answered hfound hdefault hanswered, map_eq_error_iff, mapM_eq_error_iff]
      exact ⟨before, f, after, hpresent, fun g hg => exists_readCatalog_iff.2 (hbefore g hg),
        readCatalog_eq_error_iff.2 ⟨cause, h, rfl⟩⟩

/-- Catalogs were read if each was loaded from the path of its locale. -/
theorem mapM_readCatalog_eq_ok_iff {fs : List (Locale × Path)}
    {catalogs : List (Locale × Path × Catalog)} :
    fs.mapM (readCatalog t) = .ok catalogs ↔ catalogs.map (fun e => (e.1, e.2.1)) = fs ∧
      ∀ e ∈ catalogs, (Catalog.load t e.2.1).1 = .ok e.2.2 := by
  rw [mapM_eq_ok_iff]
  induction catalogs generalizing fs with
  | nil => cases fs <;> simp
  | cons e catalogs ih =>
      cases fs with
      | nil => simp
      | cons f fs =>
          simp only [List.map_cons, List.cons.injEq, List.forall_mem_cons, ih,
            readCatalog_eq_ok_iff]
          exact and_and_and_comm

/-- What meets the specification of a compilation is what the compilation returns. -/
theorem Compiles.compile {found : Discovered} {c : Compiled} (h : Compiles t found c)
    (hfound : Discovers t s found) : (compile t s).1 = .ok c := by
  obtain ⟨default, catalogs, skipped⟩ := c
  obtain ⟨hanswered, hpresent, rfl, hcatalogs, hloaded, rfl⟩ := h
  have hread := mapM_readCatalog_eq_ok_iff.2 ⟨hcatalogs, hloaded⟩
  rw [compile_of_answered hfound hpresent hanswered, hread]
  rfl

/-- One of the reasons holds, or everything is there. -/
theorem fails_or_compiles (t : FileTree) (s : Settings) :
    (∃ e, Fails t s e) ∨ ∃ found c, Discovers t s found ∧ Compiles t found c := by
  by_cases hname : safeName s.defaultLocaleName = ""
  · exact .inl ⟨_, .unusable hname⟩
  by_cases hsearch : Unsearchable t s.resourcesDir
  · exact .inl ⟨_, .unsearchable hname hsearch⟩
  obtain ⟨found, hfound⟩ := exists_discovers hname hsearch
  by_cases hmissing : t.exists? found.default.2 = .ok false
  · exact .inl ⟨_, .missing hfound hmissing⟩
  by_cases hanswered : Answered t found.all
  · have hdefault : t.exists? found.default.2 = .ok true := by
      rcases exists?_cases t found.default.2 with h | h | h
      · exact h
      · exact absurd h hmissing
      · exact absurd h (hanswered _ List.mem_cons_self)
    cases hread : (present t found.all).mapM (readCatalog t) with
    | error e =>
        obtain ⟨before, f, after, hpresent, hbefore, hf⟩ := mapM_eq_error_iff.1 hread
        obtain ⟨cause, hload, rfl⟩ := readCatalog_eq_error_iff.1 hf
        exact .inl ⟨_, .unread hfound hdefault hanswered hpresent
          (fun g hg => exists_readCatalog_iff.1 (hbefore g hg)) hload⟩
    | ok catalogs =>
        obtain ⟨hcatalogs, hloaded⟩ := mapM_readCatalog_eq_ok_iff.1 hread
        exact .inr ⟨found, ⟨found.default.1, catalogs, missing t found.all⟩, hfound,
          ⟨hanswered, hdefault, rfl, hcatalogs, hloaded, rfl⟩⟩
  · exact .inl ⟨_, .unanswered hfound hmissing hanswered⟩

/-- **A compilation fails** exactly for the reasons listed. -/
theorem compile_eq_error_iff {e : Failure} : (compile t s).1 = .error e ↔ Fails t s e := by
  refine ⟨fun h => ?_, Fails.compile⟩
  rcases fails_or_compiles t s with ⟨e', he'⟩ | ⟨found, c, hfound, hc⟩
  · rwa [Except.error.inj (h.symm.trans he'.compile)]
  · rw [hc.compile hfound] at h
    cases h

/-- **A compilation succeeds** exactly with what meets its specification. -/
theorem compile_eq_ok_iff {c : Compiled} :
    (compile t s).1 = .ok c ↔ ∃ found, Discovers t s found ∧ Compiles t found c := by
  refine ⟨fun h => ?_, fun ⟨found, hfound, hc⟩ => hc.compile hfound⟩
  rcases fails_or_compiles t s with ⟨e, he⟩ | ⟨found, c', hfound, hc'⟩
  · rw [he.compile] at h
    cases h
  · rw [Except.ok.inj (h.symm.trans (hc'.compile hfound))]
    exact ⟨found, hfound, hc'⟩

/-! ## What is reported -/

/-- All records of a discovery are marked as such. -/
theorem source_of_mem_discover {r : Record}
    (h : r ∈ (discover t s.resourcesDir s.defaultLocaleName s.catalogFile).2) :
    r.source = .discovery := by
  have hwarning : ∀ {directory : Path} {v : Verdict}, r ∈ warningOf directory v →
      r.source = .discovery := by
    intro directory v hr
    cases v <;> simp only [warningOf, List.mem_singleton, List.not_mem_nil] at hr
    all_goals rw [hr]; rfl
  have hwarnings : ∀ {vs : List (String × Verdict)},
      r ∈ vs.flatMap (fun f => warningOf (s.resourcesDir.entry f.1) f.2) →
      r.source = .discovery := by
    intro vs hr
    obtain ⟨_, -, hr⟩ := List.mem_flatMap.1 hr
    exact hwarning hr
  unfold discover at h
  split at h
  · cases h
  · dsimp only at h
    split at h
    · exact hwarnings h
    · rcases List.mem_append.1 h with h | h
      · exact hwarnings h
      · rw [List.mem_singleton.1 h]
        rfl

/-- All records of a catalog are marked as such. -/
theorem source_of_mem_load {p : Path} {r : Record} (h : r ∈ (Catalog.load t p).2) :
    r.source = .catalog := by
  have hitem : ∀ {name : String} {item : Markup.Element}, r ∈ Catalog.itemReport p name item →
      r.source = .catalog := by
    intro name item hr
    unfold Catalog.itemReport at hr
    split at hr
    · rw [List.mem_singleton.1 hr]
    · split at hr
      · cases hr
      · rw [List.mem_singleton.1 hr]
  have helement : ∀ {e : Markup.Element}, r ∈ Catalog.elementReport p e →
      r.source = .catalog := by
    intro e hr
    unfold Catalog.elementReport at hr
    split at hr
    · cases hr
    · rw [List.mem_singleton.1 hr]
    · obtain ⟨_, -, hr⟩ := List.mem_flatMap.1 hr
      exact hitem hr
    · cases hr
  unfold Catalog.load at h
  dsimp only at h
  split at h
  · simp only [List.mem_cons, List.not_mem_nil, or_false] at h
    rcases h with rfl | rfl <;> rfl
  · simp only [List.cons_append, List.mem_cons, List.mem_append, List.not_mem_nil, or_false] at h
    rcases h with rfl | h | rfl
    · rfl
    · obtain ⟨_, -, h⟩ := List.mem_flatMap.1 h
      exact helement h
    · rfl

/-- Catalogs together leave records of catalogs only. -/
theorem source_of_mem_loadAll {fs : List (Locale × Path)} {r : Record}
    (h : r ∈ (loadAll t fs).2) : r.source = .catalog := by
  induction fs with
  | nil => cases h
  | cons f fs ih =>
      obtain ⟨l, p⟩ := f
      have hload : ∀ {r}, r ∈ (Catalog.load t p).2 → r.source = .catalog := source_of_mem_load
      rw [loadAll] at h
      split at h
      · next hcatalog =>
        rw [hcatalog] at hload
        exact hload h
      · next hcatalog =>
        rw [hcatalog] at hload
        rcases List.mem_append.1 h with h | h
        · exact hload h
        · exact ih h

/-- Records of one source have none of another among them. -/
theorem filter_source_eq_nil {log : Log} {source other : Source}
    (h : ∀ r ∈ log, r.source = source) (hne : source ≠ other) :
    log.filter (fun r => r.source = other) = [] := by
  rw [List.filter_eq_nil_iff]
  intro r hr
  simpa [h r hr] using hne

/-- Of the locales a compilation itself says nothing but that catalogs are not there. -/
theorem filter_compile_log {c : Compiled} (h : (compile t s).1 = .ok c) :
    (compile t s).2.filter (fun r => r.source = .compilation) = c.skipped.map missingReport := by
  obtain ⟨found, hfound, hc⟩ := compile_eq_ok_iff.1 h
  have hsurvey := survey_all hfound hc.default_present hc.answered
  have hdiscover : ∀ r ∈ (discover t s.resourcesDir s.defaultLocaleName s.catalogFile).2,
      r.source = .discovery := fun _ => source_of_mem_discover
  have hload : ∀ r ∈ (loadAll t (present t found.all)).2, r.source = .catalog :=
    fun _ => source_of_mem_loadAll
  have hmissing : ((missing t found.all).map missingReport).filter
      (fun r => r.source = .compilation) = (missing t found.all).map missingReport := by
    rw [List.filter_eq_self]
    intro r hr
    obtain ⟨k, -, rfl⟩ := List.mem_map.1 hr
    rfl
  unfold Discovers at hfound
  unfold compile
  split
  · next heq =>
    rw [heq] at hfound
    cases hfound
  · next found' log heq =>
    rw [heq] at hfound hdiscover
    cases hfound
    rw [hsurvey]
    dsimp only at hdiscover ⊢
    rw [List.filter_append, List.filter_append, filter_source_eq_nil hdiscover (by decide),
      filter_source_eq_nil hload (by decide), List.nil_append, List.append_nil, hmissing, hc.skipped]

/-! ## The whole compilation -/

/-- A compilation that fails leaves the tree as it is. -/
theorem run_of_error {e : Failure} (h : (compile t s).1 = .error e) :
    run t s = ⟨.error e, t, (compile t s).2⟩ := by
  unfold run
  generalize compile t s = ended at h ⊢
  obtain ⟨outcome, log⟩ := ended
  cases h
  rfl

/-- Everything there is to say of how a compilation ends. -/
structure Decided (t : FileTree) (s : Settings) : Prop where
  succeeds_iff : (∃ c, (compile t s).1 = .ok c) ↔
    safeName s.defaultLocaleName ≠ "" ∧ ¬ Unsearchable t s.resourcesDir ∧
      ∃ found, Discovers t s found ∧ Answered t found.all ∧
        t.exists? found.default.2 = .ok true ∧
        ∀ f ∈ present t found.all, ∃ catalog, (Catalog.load t f.2).1 = .ok catalog
  ok_iff : ∀ c, (compile t s).1 = .ok c ↔ ∃ found, Discovers t s found ∧ Compiles t found c
  model : ∀ c found, (compile t s).1 = .ok c → Discovers t s found →
    c.model.default = found.default.1 ∧
      c.model.locales = found.default.1 :: (present t found.others).map (·.1) ∧
      c.model.catalogs = c.catalogs.map fun e => (e.1, e.2.2)
  warnings : ∀ c, (compile t s).1 = .ok c →
    (compile t s).2.filter (fun r => r.source = .compilation) = c.skipped.map missingReport
  error_iff : ∀ e, (compile t s).1 = .error e ↔ Fails t s e
  unchanged : ∀ e, (compile t s).1 = .error e → (run t s).outcome = .error e ∧ (run t s).tree = t
  shared : ∀ found, Discovers t s found → t.exists? found.default.2 = .ok true →
    Answered t found.all → ∀ workers p, 0 < workers →
      Pool.Reached (readCatalog t) workers (present t found.all) p →
      (∀ outcome, p.outcome (present t found.all) = some outcome → (compile t s).1 =
        outcome.map fun catalogs => ⟨found.default.1, catalogs, missing t found.all⟩) ∧
      ((∀ p', ¬ Pool.Step (readCatalog t) workers p p') →
        p.outcome (present t found.all) ≠ none)

/-- **How a compilation ends** is decided by the name of the default locale, by which catalogs are
there, and by the first of those that cannot be read, in the order in which the locales were found;
how many workers share the reading makes no difference. -/
theorem compile_decided (t : FileTree) (s : Settings) : Decided t s where
  succeeds_iff := by
    constructor
    · rintro ⟨c, h⟩
      obtain ⟨found, hfound, hc⟩ := compile_eq_ok_iff.1 h
      refine ⟨hfound.usable.1, hfound.usable.2, found, hfound, hc.answered, hc.default_present,
        fun f hf => ?_⟩
      rw [← hc.catalogs] at hf
      obtain ⟨e, he, rfl⟩ := List.mem_map.1 hf
      exact ⟨e.2.2, hc.loaded e he⟩
    · rintro ⟨-, -, found, hfound, hanswered, hdefault, hloaded⟩
      cases h : (compile t s).1 with
      | ok c => exact ⟨c, rfl⟩
      | error e =>
          rw [compile_of_answered hfound hdefault hanswered, map_eq_error_iff,
            mapM_eq_error_iff] at h
          obtain ⟨before, f, after, hpresent, -, hf⟩ := h
          obtain ⟨cause, hcause, -⟩ := readCatalog_eq_error_iff.1 hf
          obtain ⟨catalog, hcatalog⟩ := hloaded f (hpresent ▸ by simp)
          rw [hcause] at hcatalog
          cases hcatalog
  ok_iff _ := compile_eq_ok_iff
  model c found h hfound := by
    obtain ⟨found', hfound', hc⟩ := compile_eq_ok_iff.1 h
    obtain rfl := hfound.unique hfound'
    have hmodel := (compile_spec h).catalogs
    refine ⟨hc.default, ?_, hmodel⟩
    have hfirst : present t found.all = found.default :: present t found.others :=
      List.filter_cons_of_pos (by rw [isPresent, hc.default_present])
    have hcatalogs := congrArg (List.map (·.1)) (hc.catalogs.trans hfirst)
    rw [List.map_map] at hcatalogs
    rw [Model.locales, hmodel, OrderedMap.keys, List.map_map]
    exact hcatalogs
  warnings _ := filter_compile_log
  error_iff _ := compile_eq_error_iff
  unchanged e h := by
    rw [run_of_error h]
    exact ⟨rfl, rfl⟩
  shared found hfound hdefault hanswered workers p hworkers hreached := by
    refine ⟨fun outcome houtcome => ?_, hreached.outcome_ne_none hworkers⟩
    rw [compile_of_answered hfound hdefault hanswered, hreached.outcome_eq_mapM houtcome]

/-! ## Names that are too long -/

/-- A tree with a directory for the default locale and nothing in it. -/
def emptyValues : FileTree where
  workingDir := []
  entries := [(["res"], .directory), (["res", "values"], .directory)]

/-- A name of one byte more than a file system takes. -/
def longName : String := String.ofList (List.replicate 256 'a')

/-- The path of the default catalog when catalogs have that name. -/
def longPath : Path := ⟨.relative, ["res", "values", longName]⟩

/-- Settings by which catalogs have that name. -/
def longNameSettings : Settings := {resSettings with catalogFile := longName}

theorem toList_longName : longName.toList = List.replicate 256 'a' := String.toList_ofList

/-- The path is not too long as a whole. -/
theorem fits_longPath : Fits longPath := by
  have htext : longPath.text = "res/values/" ++ longName := by
    have hnames : "/".intercalate longPath.names = "res/values" ++ ("/" ++ longName) := rfl
    rw [Path.text, hnames]
    rfl
  constructor
  · rw [htext, String.toList_append, toList_longName]
    decide +kernel
  · rw [htext]
    decide +kernel

/-- The path of the default catalog can be asked about only as far as its directory. -/
theorem exists?_longPath : emptyValues.exists? longPath = .error .nameTooLong :=
  fits_longPath.exists?_eq_error (by decide +kernel)

/-- The default catalog is looked for at the long path. -/
theorem Discovers.default_longPath {found : Discovered}
    (h : Discovers emptyValues longNameSettings found) : found.default.2 = longPath := by
  obtain ⟨directory, hdirectory, hpath⟩ := (discover_spec h).2 _ List.mem_cons_self
  have hname : Path.ofString longName = ⟨.relative, [longName]⟩ := by
    rw [Path.ofString, Text.splitText, toList_longName]
    decide +kernel
  have hcatalog : longNameSettings.catalogFile = longName := rfl
  rw [IsDirectoryOf, if_pos h.isDefault.1] at hdirectory
  rw [hpath, hdirectory, hcatalog, Path.child, hname, Path.join_of_relative _ rfl]
  rfl

/-- Settings are accepted by which every catalog has a name that is too long.  The default one is
then not there, but the question whether it is there is refused, and this ends the compilation. -/
theorem not_missingDefault_long_name :
    longNameSettings.validate = .ok longNameSettings ∧
      safeName longNameSettings.defaultLocaleName ≠ "" ∧
      ∃ found, Discovers emptyValues longNameSettings found ∧ found.default.2 = longPath ∧
        emptyValues.entryAt (emptyValues.target longPath) = none ∧
        (compile emptyValues longNameSettings).1 = .error (.file .nameTooLong) := by
  have hname : safeName longNameSettings.defaultLocaleName ≠ "" := by decide +kernel
  have hsearch : (candidates emptyValues longNameSettings.resourcesDir).2 = .ok () := by
    decide +kernel
  obtain ⟨found, hfound⟩ := exists_discovers hname fun h => by
    rw [candidates_eq_error_iff.2 ⟨rfl, h⟩] at hsearch
    cases hsearch
  have hpath := hfound.default_longPath
  have hexists : emptyValues.exists? found.default.2 = .error .nameTooLong := by
    rw [hpath, exists?_longPath]
  have hfails : Fails emptyValues longNameSettings (.file .nameTooLong) :=
    .unanswered hfound (by rw [hexists]; nofun) fun h => h _ List.mem_cons_self hexists
  exact ⟨by decide +kernel, hname, found, hfound, hpath, by decide +kernel, hfails.compile⟩

end Compilation

end StringCatalog
