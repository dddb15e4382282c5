import StringCatalog.Locale.Discovery
import StringCatalog.Proofs.SafeNames

/-!
# StringCatalog.Proofs.Discovered

What the discovery promises of the locales that it lists.  A directory is
passed over when the lower case of its name is taken, by the default locale, by
the name of the default member or by an earlier directory; so the listed names
are safe and apart even in lower case.

* `WellNamed` — the promise, which holds of a part of the locales as well
  (`WellNamed.sublist`);
* `fresh_verdicts` — it is kept directory by directory (`Fresh`);
* `discover_spec` — the discovery keeps it, and takes every catalog from the
  directory of its locale.
-/

namespace StringCatalog

open Text

/-- A default locale and others whose names can stand side by side in a package. -/
structure WellNamed (default : Locale) (others : List Locale) : Prop where
  default_isDefault : default.isDefault = true
  others_isDefault : ∀ l ∈ others, l.isDefault = false
  default_name : SafeName default.name
  others_name : ∀ l ∈ others, SafeName l.name
  lower_nodup : ((default :: others).map fun l => lower l.name).Nodup
  lower_ne_default : ∀ l ∈ others, lower l.name ≠ "default"

/-- Good names stay good when some of the locales are left out. -/
theorem WellNamed.sublist {default : Locale} {others others' : List Locale}
    (h : WellNamed default others) (hsub : others'.Sublist others) : WellNamed default others' where
  default_isDefault := h.default_isDefault
  others_isDefault l hl := h.others_isDefault l (hsub.mem hl)
  default_name := h.default_name
  others_name l hl := h.others_name l (hsub.mem hl)
  lower_nodup := h.lower_nodup.sublist ((hsub.cons_cons default).map _)
  lower_ne_default l hl := h.lower_ne_default l (hsub.mem hl)

namespace Discovery

/-! ## Directories -/

/-- The locale of a directory that is listed. -/
def listed? : String × Verdict → Option Locale
  | (_, .listed l) => some l
  | _ => none

/-- The name of a directory's locale is safe unless it is empty. -/
theorem safeName_ofDirectory {directory : String}
    (h : (Locale.ofDirectory directory).name.isEmpty = false) :
    SafeName (Locale.ofDirectory directory).name := by
  have hname : (Locale.ofDirectory directory).name =
      safeName (String.ofList (directory.toList.drop Locale.directoryPrefix.length)) := rfl
  rw [hname] at h ⊢
  exact safeName_of_isEmpty_false h

/-- A directory is listed under its own locale, with a safe name that was not taken. -/
theorem verdict_eq_listed {taken : List String} {directory : String} {l : Locale}
    (h : verdict taken directory = .listed l) :
    l = Locale.ofDirectory directory ∧ SafeName l.name ∧ lower l.name ∉ taken := by
  unfold verdict at h
  dsimp only at h
  split at h
  · cases h
  · split at h
    · cases h
    · next hname =>
      split at h
      · cases h
      · next htaken =>
        obtain rfl := Verdict.listed.inj h
        rw [Bool.not_eq_true] at hname
        refine ⟨rfl, safeName_ofDirectory hname, ?_⟩
        simpa using htaken

/-- A directory that is listed takes its name from those behind it. -/
theorem verdicts_listed {taken : List String} {d : String} {l : Locale}
    (h : verdict taken d = .listed l) (ds : List String) :
    verdicts taken (d :: ds) = (d, .listed l) :: verdicts (lower l.name :: taken) ds := by
  rw [verdicts, h]

/-- A directory that is not listed takes no name. -/
theorem verdicts_passed {taken : List String} {d : String} (h : ∀ l, verdict taken d ≠ .listed l)
    (ds : List String) :
    verdicts taken (d :: ds) = (d, verdict taken d) :: verdicts taken ds := by
  rw [verdicts]
  split
  · next l hl => exact absurd hl (h l)
  · rfl

/-- What holds of the locales that are listed when some names are taken. -/
structure Fresh (taken : List String) (locales : List Locale) : Prop where
  isDefault : ∀ l ∈ locales, l.isDefault = false
  name : ∀ l ∈ locales, SafeName l.name
  not_taken : ∀ l ∈ locales, lower l.name ∉ taken
  nodup : (locales.map fun l => lower l.name).Nodup

/-- A locale with a name that is not taken comes before others that are fresh behind it. -/
theorem Fresh.cons {taken : List String} {l : Locale} {locales : List Locale}
    (h : Fresh (lower l.name :: taken) locales) (hdefault : l.isDefault = false)
    (hname : SafeName l.name) (htaken : lower l.name ∉ taken) : Fresh taken (l :: locales) where
  isDefault := List.forall_mem_cons.2 ⟨hdefault, h.isDefault⟩
  name := List.forall_mem_cons.2 ⟨hname, h.name⟩
  not_taken := List.forall_mem_cons.2
    ⟨htaken, fun l' hl' hmem => h.not_taken l' hl' (List.mem_cons_of_mem _ hmem)⟩
  nodup := by
    rw [List.map_cons, List.nodup_cons]
    refine ⟨fun hmem => ?_, h.nodup⟩
    obtain ⟨l', hl', heq⟩ := List.mem_map.1 hmem
    exact h.not_taken l' hl' (heq ▸ List.mem_cons_self)

/-- Each listed name is taken from then on, so the next ones differ from it. -/
theorem fresh_verdicts (taken directories : List String) :
    Fresh taken ((verdicts taken directories).filterMap listed?) := by
  induction directories generalizing taken with
  | nil => exact ⟨nofun, nofun, nofun, List.nodup_nil⟩
  | cons d ds ih =>
      by_cases h : ∃ l, verdict taken d = .listed l
      · obtain ⟨l, hl⟩ := h
        obtain ⟨rfl, hname, htaken⟩ := verdict_eq_listed hl
        rw [verdicts_listed hl]
        exact (ih _).cons rfl hname htaken
      · rw [not_exists] at h
        rw [verdicts_passed h]
        have hnone : listed? (d, verdict taken d) = none := by
          match hv : verdict taken d with
          | .listed l => exact absurd hv (h l)
          | .noToken => rfl
          | .noName => rfl
          | .nameTaken _ => rfl
        rw [List.filterMap_cons_none hnone]
        exact ih taken

/-- Each verdict is the one on its directory with some names taken. -/
theorem mem_verdicts {taken directories : List String} {d : String} {v : Verdict}
    (h : (d, v) ∈ verdicts taken directories) : ∃ taken', v = verdict taken' d := by
  induction directories generalizing taken with
  | nil => cases h
  | cons d' ds ih =>
      by_cases hl : ∃ l, verdict taken d' = .listed l
      · obtain ⟨l, hl⟩ := hl
        rw [verdicts_listed hl] at h
        cases h with
        | head => exact ⟨taken, hl.symm⟩
        | tail _ h => exact ih h
      · rw [not_exists] at hl
        rw [verdicts_passed hl] at h
        cases h with
        | head => exact ⟨taken, rfl⟩
        | tail _ h => exact ih h

/-! ## The whole discovery -/

/-- The directory from which a locale is read: the default one's, or one whose name gives the
locale. -/
def IsDirectoryOf (directory : String) (l : Locale) : Prop :=
  if l.isDefault then directory = defaultDirectory else l = Locale.ofDirectory directory

/-- The catalog of a locale lies in the locale's own directory. -/
def HasOwnPath (resources : Path) (catalogFile : String) (l : Locale) (p : Path) : Prop :=
  ∃ directory, IsDirectoryOf directory l ∧ p = (resources.entry directory).child catalogFile

/-- The default locale is marked as such, and its name is safe. -/
theorem default?_eq_some {name : String} {l : Locale} (h : Locale.default? name = some l) :
    l.isDefault = true ∧ SafeName l.name := by
  unfold Locale.default? at h
  dsimp only at h
  split at h
  · cases h
  · next hname =>
    obtain rfl := Option.some.inj h
    rw [Bool.not_eq_true] at hname
    exact ⟨rfl, safeName_of_isEmpty_false hname⟩

/-- The locales found are those of the verdicts that list one. -/
theorem map_fst_foundIn (resources : Path) (catalogFile : String) (vs : List (String × Verdict)) :
    (vs.filterMap (foundIn resources catalogFile)).map (·.1) = vs.filterMap listed? := by
  rw [List.map_filterMap]
  congr 1
  funext ⟨d, v⟩
  cases v <;> rfl

/-- **The discovery lists locales of names apart**, each with the catalog of its own directory. -/
theorem discover_spec {t : FileTree} {resources : Path} {defaultName catalogFile : String}
    {found : Discovered}
    (h : (discover t resources defaultName catalogFile).1 = .ok found) :
    WellNamed found.default.1 (found.others.map (·.1)) ∧
      ∀ f ∈ found.all, HasOwnPath resources catalogFile f.1 f.2 := by
  unfold discover at h
  split at h
  · cases h
  · next default hdefault =>
    dsimp only at h
    split at h
    · cases h
    · cases h
      obtain ⟨hisDefault, hsafe⟩ := default?_eq_some hdefault
      have hfresh := fresh_verdicts (reserved default) (candidates t resources).1
      have hmember : default.memberName = "DEFAULT" := by rw [Locale.memberName, if_pos hisDefault]
      have hlower : lower "DEFAULT" = "default" := by decide +kernel
      dsimp only
      rw [map_fst_foundIn]
      refine ⟨⟨hisDefault, hfresh.isDefault, hsafe, hfresh.name, ?_, fun l hl heq => ?_⟩, ?_⟩
      · rw [List.map_cons, List.nodup_cons]
        refine ⟨fun hmem => ?_, hfresh.nodup⟩
        obtain ⟨l, hl, heq⟩ := List.mem_map.1 hmem
        exact hfresh.not_taken l hl (heq ▸ List.mem_cons_self)
      · refine hfresh.not_taken l hl ?_
        rw [heq, reserved, hmember, hlower]
        exact List.mem_cons_of_mem _ List.mem_cons_self
      · rintro f hf
        rcases List.mem_cons.1 hf with rfl | hf
        · exact ⟨defaultDirectory, by simp [IsDirectoryOf, hisDefault], rfl⟩
        · obtain ⟨⟨d, v⟩, hv, hfound⟩ := List.mem_filterMap.1 hf
          obtain ⟨taken, rfl⟩ := mem_verdicts hv
          unfold foundIn at hfound
          split at hfound
          · next d' l hdl =>
            cases hfound
            rw [Prod.mk.injEq] at hdl
            obtain ⟨rfl, hl⟩ := hdl
            obtain ⟨rfl, -, -⟩ := verdict_eq_listed hl
            exact ⟨d, by simp [IsDirectoryOf, Locale.ofDirectory, Locale.ofToken], rfl⟩
          · cases hfound

end Discovery

end StringCatalog
