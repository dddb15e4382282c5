import StringCatalog.Compilation
import StringCatalog.Proofs.Discovered
import StringCatalog.Proofs.Maps
import StringCatalog.Proofs.Outcomes

/-!
# StringCatalog.Proofs.Compiled

What a compilation has read when it succeeds.  Of the locales that were
discovered it keeps those with a catalog, the default one first.

* `survey_spec`, `loadAll_spec` — the two passes over the discovered locales;
* `Model.WellNamed` — the names of a model's locales can stand side by side;
* `compile_spec` — a compiled model has such names, and every locale has the
  catalog that was read from its own directory.
-/

namespace StringCatalog

/-- A model of the default locale and others, in this order, whose names can stand side by side. -/
def Model.WellNamed (m : Model) : Prop :=
  ∃ others, m.locales = m.default :: others ∧ StringCatalog.WellNamed m.default others

namespace Compilation

open Discovery

/-- The locales that are kept are in the order of the discovered ones; a default one is kept. -/
theorem survey_spec {t : FileTree} {locales present : List (Locale × Path)}
    {skipped : List Skipped} (h : (survey t locales).1 = .ok (present, skipped)) :
    present.Sublist locales ∧
      ∀ f rest, locales = f :: rest → f.1.isDefault = true →
        ∃ present', present = f :: present' ∧ present'.Sublist rest := by
  induction locales generalizing present skipped with
  | nil =>
      cases h
      exact ⟨.slnil, nofun⟩
  | cons f rest ih =>
      obtain ⟨l, p⟩ := f
      unfold survey at h
      split at h
      · cases h
      · obtain ⟨⟨present', skipped'⟩, hrest, heq⟩ := map_eq_ok h
        cases heq
        have hsub := (ih hrest).1
        refine ⟨hsub.cons_cons _, fun f rest' hcons _ => ?_⟩
        cases hcons
        exact ⟨present', rfl, hsub⟩
      · split at h
        · cases h
        · next hnot =>
          obtain ⟨⟨present', skipped'⟩, hrest, heq⟩ := map_eq_ok h
          cases heq
          refine ⟨(ih hrest).1.cons _, fun f rest' hcons hdefault => ?_⟩
          cases hcons
          exact absurd hdefault hnot

/-- Every locale comes with the catalog that was read from its path. -/
theorem loadAll_spec {t : FileTree} {locales : List (Locale × Path)}
    {catalogs : List (Locale × Path × Catalog)} (h : (loadAll t locales).1 = .ok catalogs) :
    catalogs.map (fun e => (e.1, e.2.1)) = locales ∧
      ∀ e ∈ catalogs, (Catalog.load t e.2.1).1 = .ok e.2.2 := by
  induction locales generalizing catalogs with
  | nil =>
      cases h
      exact ⟨rfl, nofun⟩
  | cons f rest ih =>
      obtain ⟨l, p⟩ := f
      unfold loadAll at h
      split at h
      · cases h
      · next c log hload =>
        obtain ⟨catalogs', hrest, rfl⟩ := map_eq_ok h
        obtain ⟨hmap, hall⟩ := ih hrest
        refine ⟨by rw [List.map_cons, hmap], List.forall_mem_cons.2 ⟨?_, hall⟩⟩
        rw [hload]

/-! ## Models -/

theorem nodup_locales {default : Locale} {others : List Locale}
    (h : StringCatalog.WellNamed default others) : (default :: others).Nodup :=
  List.Pairwise.of_map (fun l => Text.lower l.name) (fun _ _ hne heq => hne (by rw [heq]))
    h.lower_nodup

/-- What a compilation has read. -/
structure HasRead (t : FileTree) (s : Settings) (c : Compiled) : Prop where
  wellNamed : c.model.WellNamed
  catalogs : c.model.catalogs = c.catalogs.map fun e => (e.1, e.2.2)
  own_path : ∀ e ∈ c.catalogs, HasOwnPath s.resourcesDir s.catalogFile e.1 e.2.1
  loaded : ∀ e ∈ c.catalogs, (Catalog.load t e.2.1).1 = .ok e.2.2

/-- **A compiled model has locales of names apart**, each with the catalog of its own directory. -/
theorem compile_spec {t : FileTree} {s : Settings} {c : Compiled}
    (h : (compile t s).1 = .ok c) : HasRead t s c := by
  unfold compile at h
  split at h
  · cases h
  · next found _ hfound =>
    split at h
    · cases h
    · next present skipped _ hsurvey =>
      obtain ⟨catalogs, hload, rfl⟩ := map_eq_ok h
      obtain ⟨hnamed, hpath⟩ := discover_spec (by rw [hfound])
      obtain ⟨hsub, hfirst⟩ := survey_spec (by rw [hsurvey])
      obtain ⟨hcatalogs, hloaded⟩ := loadAll_spec hload
      obtain ⟨present', rfl, hsub'⟩ := hfirst _ _ rfl hnamed.default_isDefault
      have hnamed' : StringCatalog.WellNamed found.default.1 (present'.map (·.1)) :=
        hnamed.sublist (hsub'.map (·.1))
      have hlocales : catalogs.map (·.1) = found.default.1 :: present'.map (·.1) := by
        have hfst := congrArg (List.map (·.1)) hcatalogs
        rwa [List.map_map, List.map_cons] at hfst
      have hmodel : (⟨found.default.1, catalogs, skipped⟩ : Compiled).model.catalogs =
          catalogs.map fun e => (e.1, e.2.2) := by
        refine OrderedMap.ofList_eq_self (OrderedMap.keysApart_iff_nodup.2 ?_)
        rw [OrderedMap.keys, List.map_map]
        exact hlocales ▸ nodup_locales hnamed'
      refine ⟨⟨_, ?_, hnamed'⟩, hmodel, fun e he => ?_, hloaded⟩
      · rw [Model.locales, hmodel, OrderedMap.keys, List.map_map]
        exact hlocales
      · refine hpath (e.1, e.2.1) (hsub.mem ?_)
        rw [← hcatalogs]
        exact List.mem_map_of_mem he

end Compilation

def Model.IsCompiled (m : Model) : Prop :=
  ∃ t s c, (Compilation.compile t s).1 = .ok c ∧ m = c.model

/-- A compiled model has names that are fit for the package and apart from each other. -/
theorem Model.IsCompiled.wellNamed {m : Model} (h : m.IsCompiled) : m.WellNamed := by
  obtain ⟨t, s, c, hc, rfl⟩ := h
  exact (Compilation.compile_spec hc).wellNamed

end StringCatalog
