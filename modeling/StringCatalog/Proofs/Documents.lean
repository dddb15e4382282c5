import StringCatalog.Catalog.Load
import StringCatalog.Proofs.Collected

/-!
# StringCatalog.Proofs.Documents

The catalog of a document.  Elements directly in the root define entries: the
first one of a name decides the place, the last one what the entry is.  Within a
plural the items do the same for the categories.

* `Offers`, `Defines` — what an item and what an element say, each by itself;
* `collects_ofDocument` — the catalog is collected from the elements of the root;
* `viewBy_eq_filterMap`, `keys_views_perm` — the four views share out the keys;
* `load_isCatalogOf` — a document that can be read has this one catalog
  (`IsCatalogOf`).
-/

namespace StringCatalog

open Markup Text

theorem Entry.key_ofText (key value : String) : (Entry.ofText key value).key = key := by
  unfold Entry.ofText
  split <;> rfl

theorem Entry.plurals?_ofText (key value : String) : (Entry.ofText key value).plurals? = none := by
  unfold Entry.ofText
  split <;> rfl

namespace Catalog

open OrderedMap

/-! ## What elements define -/

/-- An item of a plural gives its category its text, if that is one of the known categories. -/
inductive Offers (item : Element) : String → String → Prop where
  | known {category : String} (hcategory : item.attribute? "quantity" = some category)
      (hknown : category ∈ Entry.pluralCategories) : Offers item category (unescape item.text)

/-- An element defines an entry under its name, if it has one, by what stands in it. -/
inductive Defines (e : Element) (key : String) : Entry → Prop where
  | string (htag : e.isNamed "string" = true) (hname : e.attribute? "name" = some key)
      (hkey : key ≠ "") : Defines e key (.ofText key (unescape e.text))
  | plurals {items : OrderedMap String String} (htag : e.isNamed "plurals" = true)
      (hname : e.attribute? "name" = some key) (hkey : key ≠ "")
      (hitems : Collects Offers (e.elements.filter (·.isNamed "item")) items) :
      Defines e key (.plurals key items)
  | array (htag : e.isNamed "string-array" = true) (hname : e.attribute? "name" = some key)
      (hkey : key ≠ "") : Defines e key
        (.array key ((e.elements.filter (·.isNamed "item")).map fun item => unescape item.text))

/-- A definition defines an entry under its own key. -/
theorem Defines.key_eq {e : Element} {key : String} {entry : Entry} (h : Defines e key entry) :
    entry.key = key := by
  cases h with
  | string => exact Entry.key_ofText key _
  | plurals => rfl
  | array => rfl

/-- An item of plurals is read as what it offers. -/
theorem pluralItem?_eq_some_iff {item : Element} {category text : String} :
    pluralItem? item = some (category, text) ↔ Offers item category text := by
  unfold pluralItem?
  constructor
  · intro h
    split at h
    · next q hq =>
      split at h
      · next hknown =>
        cases h
        exact .known hq (by simpa using hknown)
      · cases h
    · cases h
  · rintro ⟨hcategory, hknown⟩
    have hcontains : Entry.pluralCategories.contains category = true := by simpa using hknown
    rw [quantityAttribute, hcategory]
    dsimp only
    rw [if_pos hcontains, textOf]

theorem writes_pluralItem? : Writes pluralItem? = Offers := by
  funext item category text
  exact propext pluralItem?_eq_some_iff

/-- The items of a plural are collected from its elements. -/
theorem collects_items (e : Element) :
    Collects Offers (itemsOf e) (ofList ((itemsOf e).filterMap pluralItem?)) :=
  writes_pluralItem? ▸ collects_ofList pluralItem? (itemsOf e)

/-- An item offers one category at most. -/
theorem offers_unique (item : Element) (category text category' text' : String)
    (h : Offers item category text) (h' : Offers item category' text') : category = category' := by
  cases h with
  | known hcategory _ =>
      cases h' with
      | known hcategory' _ => exact Option.some.inj (hcategory.symm.trans hcategory')

/-- The kind of an element is told by its name, as no two kinds share one. -/
theorem kindOf?_eq_some_iff {e : Element} {kind : Kind} :
    kindOf? e = some kind ↔ e.isNamed kind.tag = true := by
  have htag : ∀ k, e.isNamed k = true ↔ e.name = ⟨none, k⟩ := fun k => decide_eq_true_iff
  constructor
  · intro h
    simpa using List.find?_some h
  · intro h
    have hname := (htag _).1 h
    unfold kindOf? Element.isNamed
    rw [hname]
    cases kind <;> decide

/-- An element is a definition if it has the tag of a kind and a name that is not empty. -/
theorem definition?_eq_some_iff {e : Element} {kind : Kind} {key : String} :
    definition? e = some (kind, key) ↔
      e.isNamed kind.tag = true ∧ e.attribute? "name" = some key ∧ key ≠ "" := by
  rw [← kindOf?_eq_some_iff]
  unfold definition? nameAttribute
  cases kindOf? e with
  | none => simp
  | some k =>
      cases e.attribute? "name" with
      | none => simp
      | some name =>
          by_cases hname : name = ""
          · subst hname
            simp
          · simp only [Option.bind_eq_bind, Option.bind_some, String.isEmpty_iff, hname, if_false,
              pure]
            constructor
            · rintro ⟨⟩
              exact ⟨rfl, rfl, hname⟩
            · rintro ⟨⟨⟩, ⟨⟩, -⟩
              rfl

/-- The name and the entry that an element defines. -/
def defined? (e : Element) : Option (String × Entry) :=
  (definition? e).map fun (kind, name) => (name, entryOf kind name e)

/-- An element is read as the entry that it defines. -/
theorem defined?_eq_some_iff {e : Element} {key : String} {entry : Entry} :
    defined? e = some (key, entry) ↔ Defines e key entry := by
  constructor
  · intro h
    obtain ⟨⟨kind, name⟩, hdefinition, heq⟩ := Option.map_eq_some_iff.1 h
    obtain ⟨htag, hname, hkey⟩ := definition?_eq_some_iff.1 hdefinition
    cases heq
    cases kind with
    | string => exact .string htag hname hkey
    | plurals => exact .plurals htag hname hkey (collects_items e)
    | array => exact .array htag hname hkey
  · intro h
    refine Option.map_eq_some_iff.2 ?_
    cases h with
    | string htag hname hkey =>
        exact ⟨(.string, key), definition?_eq_some_iff.2 ⟨htag, hname, hkey⟩, rfl⟩
    | plurals htag hname hkey hitems =>
        refine ⟨(.plurals, key), definition?_eq_some_iff.2 ⟨htag, hname, hkey⟩, ?_⟩
        rw [hitems.unique offers_unique (collects_items e)]
        rfl
    | array htag hname hkey =>
        exact ⟨(.array, key), definition?_eq_some_iff.2 ⟨htag, hname, hkey⟩, rfl⟩

theorem writes_defined? : Writes defined? = Defines := by
  funext e key entry
  exact propext defined?_eq_some_iff

/-- An element defines one key at most. -/
theorem defines_unique (e : Element) (key : String) (entry : Entry) (key' : String) (entry' : Entry)
    (h : Defines e key entry) (h' : Defines e key' entry') : key = key' := by
  rw [← defined?_eq_some_iff] at h h'
  exact (Prod.mk.inj (Option.some.inj (h.symm.trans h'))).1

/-! ## The entries of a document -/

/-- The entries of a catalog under their keys. -/
def byKey (c : Catalog) : OrderedMap String Entry := c.map fun e => (e.key, e)

/-- The keys of a catalog as a map, in the order of its entries. -/
theorem keys_byKey (c : Catalog) : c.byKey.keys = c.map Entry.key := by
  simp [byKey, keys]

/-- Catalogs with the same map are the same. -/
theorem byKey_inj {c c' : Catalog} (h : c.byKey = c'.byKey) : c = c' :=
  (List.map_inj_right fun _ _ heq => (Prod.mk.inj heq).2).1 h

/-- **The catalog is collected** from the elements directly in the root. -/
theorem collects_ofDocument (root : Element) :
    Collects Defines root.elements (ofDocument root).byKey := by
  have hcollects : Collects Defines root.elements (ofList (definitions root)) :=
    writes_defined? ▸ collects_ofList defined? root.elements
  have hkey : ∀ e ∈ ofList (definitions root), e.2.key = e.1 := by
    rintro ⟨key, entry⟩ he
    have hget := (get?_eq_some_iff hcollects.nodup).2 he
    obtain ⟨_, _, _, -, hdefines, -⟩ := (hcollects.get?_iff key entry).1 hget
    exact hdefines.key_eq
  have hbyKey : (ofDocument root).byKey = ofList (definitions root) := by
    rw [byKey, ofDocument, values, List.map_map]
    exact (List.map_congr_left fun e he => by simp [hkey e he]).trans (List.map_id _)
  rw [hbyKey]
  exact hcollects

/-! ## Views -/

/-- When no key occurs twice, a view is made of the entries of its kind. -/
theorem viewBy_eq_filterMap {α : Type} {part : Entry → Option (String × α)}
    (hpart : ∀ e v, part e = some v → v.1 = e.key) {c : Catalog} (h : (c.map Entry.key).Nodup) :
    c.viewBy part = c.filterMap part := by
  refine ofList_eq_self (List.Pairwise.filterMap part ?_ (List.pairwise_map.1 h))
  intro e e' hne v hv v' hv'
  rw [hpart e v hv, hpart e' v' hv']
  simpa using hne

/-- With keys apart, each view is the catalog with the entries of other kinds left out. -/
theorem views_eq_filterMap {c : Catalog} (h : (c.map Entry.key).Nodup) :
    c.simple = c.filterMap Entry.simple? ∧ c.formatted = c.filterMap Entry.formatted? ∧
      c.plurals = c.filterMap Entry.plurals? ∧ c.arrays = c.filterMap Entry.array? := by
  refine ⟨viewBy_eq_filterMap ?_ h, viewBy_eq_filterMap ?_ h, viewBy_eq_filterMap ?_ h,
    viewBy_eq_filterMap ?_ h⟩
  all_goals
    intro e v hv
    cases e <;> cases hv
    rfl

/-- The entries of the four kinds share out the keys. -/
theorem keys_views_perm (c : Catalog) :
    (keys (c.filterMap Entry.simple?) ++ keys (c.filterMap Entry.formatted?) ++
      keys (c.filterMap Entry.plurals?) ++ keys (c.filterMap Entry.array?)).Perm
        (c.map Entry.key) := by
  rw [List.perm_iff_count]
  intro key
  simp only [keys, List.count_append]
  induction c with
  | nil => rfl
  | cons e c ih =>
      cases e <;>
        simp only [List.filterMap_cons, Entry.simple?, Entry.formatted?, Entry.plurals?,
          Entry.array?, List.map_cons, List.count_cons, Entry.key] at ih ⊢ <;>
        omega

/-- What a catalog of a document is. -/
structure IsCatalogOf (root : Element) (c : Catalog) : Prop where
  /-- Each entry stands where the first element of its name does, and is that of the last one. -/
  collected : Collects Defines root.elements c.byKey
  nodup : (c.map Entry.key).Nodup
  /-- The keys are the names that are there, but for empty ones. -/
  mem_keys_iff : ∀ key, key ∈ c.map Entry.key ↔ key ≠ "" ∧ ∃ e ∈ root.elements,
    (e.isNamed "string" = true ∨ e.isNamed "plurals" = true ∨ e.isNamed "string-array" = true) ∧
      e.attribute? "name" = some key
  simple : c.simple = c.filterMap Entry.simple?
  formatted : c.formatted = c.filterMap Entry.formatted?
  plurals : c.plurals = c.filterMap Entry.plurals?
  arrays : c.arrays = c.filterMap Entry.array?
  /-- Each key is in exactly one of the views. -/
  views : (c.simple.keys ++ c.formatted.keys ++ c.plurals.keys ++ c.arrays.keys).Perm
    (c.map Entry.key)
  categories : ∀ key items, .plurals key items ∈ c → ∀ category ∈ items.keys,
    category ∈ Entry.pluralCategories

/-- The catalog of a document meets its specification. -/
theorem isCatalogOf_ofDocument (root : Element) : IsCatalogOf root (ofDocument root) := by
  have hcollects := collects_ofDocument root
  have hnodup := keys_byKey (ofDocument root) ▸ hcollects.nodup
  obtain ⟨hsimple, hformatted, hplurals, harrays⟩ := views_eq_filterMap hnodup
  refine ⟨hcollects, hnodup, fun key => ?_, hsimple, hformatted, hplurals, harrays, ?_, ?_⟩
  · rw [← keys_byKey, hcollects.mem_keys]
    constructor
    · rintro ⟨e, he, entry, hdefines⟩
      cases hdefines with
      | string htag hname hkey => exact ⟨hkey, e, he, .inl htag, hname⟩
      | plurals htag hname hkey => exact ⟨hkey, e, he, .inr (.inl htag), hname⟩
      | array htag hname hkey => exact ⟨hkey, e, he, .inr (.inr htag), hname⟩
    · rintro ⟨hkey, e, he, htag | htag | htag, hname⟩
      · exact ⟨e, he, _, .string htag hname hkey⟩
      · exact ⟨e, he, _, .plurals htag hname hkey (collects_items e)⟩
      · exact ⟨e, he, _, .array htag hname hkey⟩
  · rw [hsimple, hformatted, hplurals, harrays]
    exact keys_views_perm _
  · intro key items hmem category hcategory
    have hentry : (ofDocument root).byKey.get? key = some (.plurals key items) :=
      (get?_eq_some_iff hcollects.nodup).2 (List.mem_map.2 ⟨_, hmem, rfl⟩)
    obtain ⟨_, e, _, -, hdefines, -⟩ := (hcollects.get?_iff _ _).1 hentry
    generalize hplural : Entry.plurals key items = entry at hdefines
    cases hdefines with
    | string =>
        have hnone := congrArg Entry.plurals? hplural
        rw [Entry.plurals?_ofText] at hnone
        cases hnone
    | plurals _ _ _ hitems =>
        cases hplural
        obtain ⟨_, _, _, hoffers⟩ := hitems.mem_keys.1 hcategory
        cases hoffers with
        | known _ hknown => exact hknown
    | array => cases hplural

/-- It is the only one that does. -/
theorem isCatalogOf_iff {root : Element} {c : Catalog} :
    IsCatalogOf root c ↔ c = ofDocument root := by
  constructor
  · intro h
    exact byKey_inj (h.collected.unique defines_unique (collects_ofDocument root))
  · rintro rfl
    exact isCatalogOf_ofDocument root

/-- To load a catalog is to parse the document at the path and to collect its entries. -/
theorem load_fst (t : FileTree) (p : Path) :
    (load t p).1 = (documentAt t p).map ofDocument := by
  unfold load
  cases documentAt t p <;> rfl

/-- **A document that can be read has one catalog**, which is what reading its file returns. -/
theorem load_isCatalogOf (t : FileTree) (p : Path) :
    (load t p).1 = (documentAt t p).map ofDocument ∧
      ∀ root c, IsCatalogOf root c ↔ c = ofDocument root :=
  ⟨load_fst t p, fun _ _ => isCatalogOf_iff⟩

end Catalog

end StringCatalog
