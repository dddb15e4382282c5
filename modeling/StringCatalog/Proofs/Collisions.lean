import StringCatalog.Proofs.Accounting

/-!
# StringCatalog.Proofs.Collisions

Directories whose locales have one name.  The discovery takes the first of them
before it is known which have a catalog, so the first one decides whether the
locale is compiled.

* `exists_first_found` — the first directory of a name that is not reserved is
  found;
* `compile_keeps_first` — it is compiled if it has a catalog, and otherwise no
  locale of that name is.
-/

namespace StringCatalog.Compilation

open Text FileTree Discovery

variable {t : FileTree} {s : Settings} {c : Compiled} {d : String}

def catalogIn (s : Settings) (d : String) : Path := (s.resourcesDir.entry d).child s.catalogFile

/-- Whether a directory is the first of those whose locales have the name of that of `d`. -/
structure IsFirst (t : FileTree) (s : Settings) (d first : String) : Prop where
  isLocaleDirectory : IsLocaleDirectory t s.resourcesDir first
  lowerName_eq : lowerName first = lowerName d
  le : ∀ e, IsLocaleDirectory t s.resourcesDir e → lowerName e = lowerName d → first ≤ e

/-- The first directory of a name that is not reserved is found. -/
theorem exists_first_found {found : Discovered} (hfound : Discovers t s found)
    (hd : IsLocaleDirectory t s.resourcesDir d) (hname : safeName (token d) ≠ "")
    (hmember : lowerName d ≠ "default")
    (hdefault : lowerName d ≠ lower (safeName s.defaultLocaleName)) :
    ∃ first, IsFirst t s d first ∧
      (Locale.ofDirectory first, catalogIn s first) ∈ found.others := by
  obtain ⟨husable, hsearch⟩ := hfound.usable
  obtain ⟨default, heq, hdefaultName, -⟩ := exists_default husable
  obtain ⟨found', _, hdiscover, -, hothers⟩ := discover_eq_ok heq hsearch
  obtain rfl := hfound.unique (congrArg Prod.fst hdiscover)
  obtain ⟨-, hsub, hcounts⟩ := candidates_spec hsearch
  have hfree : Free (reserved default) d := by
    refine ⟨hname, fun hmem => ?_⟩
    rw [mem_reserved_iff (default?_eq_some heq).1, hdefaultName] at hmem
    exact hmem.elim hdefault hmember
  obtain ⟨first, hlisted, hsame, hle⟩ :=
    exists_first_listed ((pairwise_sortNames _).sublist hsub) ((hcounts d).2 hd) hfree
  have hmem := (listedOf_sublist _ _).mem hlisted
  refine ⟨first, ⟨(hcounts first).1 hmem, hsame, fun e he => hle e ((hcounts e).2 he)⟩, ?_⟩
  rw [hothers]
  exact List.mem_map.2 ⟨first, hlisted, rfl⟩

/-- A locale is present if it was found and there is something at its path. -/
theorem mem_present_iff {fs : List (Locale × Path)} {f : Locale × Path} :
    f ∈ present t fs ↔ f ∈ fs ∧ t.exists? f.2 = .ok true := by
  rw [present, List.mem_filter, isPresent]
  cases t.exists? f.2 <;> simp

/-- What becomes of a locale that is found: it is in the model with what is read from its path, or it
is skipped, and no locale of its name is in the model. -/
inductive KeptOrSkipped (t : FileTree) (c : Compiled) (l : Locale) (p : Path) : Prop where
  | kept {catalog : Catalog} (hexists : t.exists? p = .ok true)
      (hload : (Catalog.load t p).1 = .ok catalog) (hmem : (l, catalog) ∈ c.model.catalogs)
  | skipped (hexists : t.exists? p = .ok false) (hmem : ⟨l, p⟩ ∈ c.skipped)
      (hnone : ∀ l' ∈ c.model.locales, lower l'.name ≠ lower l.name)

/-- A locale that was discovered is compiled, or skipped as its catalog is missing. -/
theorem Compiles.keptOrSkipped {found : Discovered} (hc : Compiles t found c)
    (hfound : Discovers t s found) {l : Locale} {p : Path} (hf : (l, p) ∈ found.others) :
    KeptOrSkipped t c l p := by
  have hmodel := (compile_spec (hc.compile hfound)).catalogs
  have hall : (l, p) ∈ found.all := List.mem_cons_of_mem _ hf
  rcases exists?_cases t p with hexists | hexists | hexists
  · have hpresent := mem_present_iff.2 ⟨hall, hexists⟩
    rw [← hc.catalogs] at hpresent
    obtain ⟨e, he, heq⟩ := List.mem_map.1 hpresent
    cases heq
    refine .kept hexists (hc.loaded e he) ?_
    rw [hmodel]
    exact List.mem_map.2 ⟨e, he, rfl⟩
  · refine .skipped hexists ?_ fun l' hl' hsame => ?_
    · rw [hc.skipped, missing]
      refine List.mem_map.2 ⟨(l, p), List.mem_filter.2 ⟨hall, ?_⟩, rfl⟩
      simp [isPresent, hexists]
    · rw [Model.locales, hmodel, OrderedMap.keys, List.map_map] at hl'
      obtain ⟨e, he, rfl⟩ := List.mem_map.1 hl'
      have hpresent : (e.1, e.2.1) ∈ present t found.all :=
        hc.catalogs ▸ List.mem_map.2 ⟨e, he, rfl⟩
      obtain ⟨hmem, hthere⟩ := mem_present_iff.1 hpresent
      -- found locales have names of their own, so this is the one that is missing
      have heq := List.inj_on_of_nodup_map hfound.names_apart hmem hall hsame
      rw [(Prod.mk.inj heq).2, hexists] at hthere
      cases hthere
  · exact absurd hexists (hc.answered (l, p) hall)

/-- **The first directory of a name decides**: if it has a catalog, the model has the locale with
what is read there; otherwise this locale is skipped, and the model has none of its name. -/
theorem compile_keeps_first (hc : (compile t s).1 = .ok c)
    (hd : IsLocaleDirectory t s.resourcesDir d) (hname : safeName (token d) ≠ "")
    (hmember : lowerName d ≠ "default")
    (hdefault : lowerName d ≠ lower (safeName s.defaultLocaleName)) :
    ∃ first, IsFirst t s d first ∧
      KeptOrSkipped t c (Locale.ofDirectory first) (catalogIn s first) := by
  obtain ⟨found, hfound, hcompiles⟩ := compile_eq_ok_iff.1 hc
  obtain ⟨first, hfirst, hmem⟩ := exists_first_found hfound hd hname hmember hdefault
  exact ⟨first, hfirst, hcompiles.keptOrSkipped hfound hmem⟩

/-- The two directories come to no locale but the default one. -/
theorem compile_twoCases :
    ∃ c, (compile twoCases resSettings).1 = .ok c ∧
      c.model.locales.map (fun l => lower l.name) = ["default"] := by
  apply exists_ok_of_toOption_map
  rw [compile, discover, candidates_twoCases]
  decide +kernel

theorem compile_keeps_first_twoCases :
    ∃ c, (compile twoCases resSettings).1 = .ok c ∧
      IsLocaleDirectory twoCases resSettings.resourcesDir "values-de" ∧
      safeName (token "values-de") ≠ "" ∧ lowerName "values-de" ≠ "default" ∧
      lowerName "values-de" ≠ lower (safeName resSettings.defaultLocaleName) ∧
      ∃ first, IsFirst twoCases resSettings "values-de" first ∧ first ≠ "values-de" ∧
        KeptOrSkipped twoCases c (Locale.ofDirectory first) (catalogIn resSettings first) := by
  obtain ⟨c, hc, -⟩ := compile_twoCases
  have hd : IsLocaleDirectory twoCases resSettings.resourcesDir "values-de" := by decide +kernel
  have hearlier : IsLocaleDirectory twoCases resSettings.resourcesDir "values-DE" := by
    decide +kernel
  have hname : safeName (token "values-de") ≠ "" := by decide +kernel
  have hmember : lowerName "values-de" ≠ "default" := by decide +kernel
  have hdefault : lowerName "values-de" ≠ lower (safeName resSettings.defaultLocaleName) := by
    decide +kernel
  obtain ⟨first, hfirst, hkept⟩ := compile_keeps_first hc hd hname hmember hdefault
  have hle : first ≤ "values-DE" := hfirst.le _ hearlier (by decide +kernel)
  refine ⟨c, hc, hd, hname, hmember, hdefault, first, hfirst, ?_, hkept⟩
  rintro rfl
  exact absurd hle (by decide)

/-- Of two directories of one name only the second has a catalog.  The first one takes the name, and
what there is in the second is lost. -/
theorem not_kept_twoCases :
    ∃ c, (compile twoCases resSettings).1 = .ok c ∧
      IsLocaleDirectory twoCases resSettings.resourcesDir "values-de" ∧
      twoCases.exists? (catalogIn resSettings "values-de") = .ok true ∧
      safeName (token "values-de") ≠ "" ∧ lowerName "values-de" ≠ "default" ∧
      lowerName "values-de" ≠ lower (safeName resSettings.defaultLocaleName) ∧
      ∀ l ∈ c.model.locales, lower l.name ≠ lowerName "values-de" := by
  obtain ⟨c, hc, hlocales⟩ := compile_twoCases
  have hmember : lowerName "values-de" ≠ "default" := by decide +kernel
  refine ⟨c, hc, by decide +kernel, by decide +kernel, by decide +kernel, hmember,
    by decide +kernel, fun l hl heq => ?_⟩
  have hmem := List.mem_map_of_mem (f := fun l => lower l.name) hl
  rw [hlocales, List.mem_singleton, heq] at hmem
  exact hmember hmem

end StringCatalog.Compilation
