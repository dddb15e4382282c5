import StringCatalog.Proofs.Maps

/-!
# StringCatalog.Proofs.Collected

Maps that are collected from sources, one after the other.  A source gives one
key a value or none at all.  The first source to give a key a value decides its
place, the last one its value.

* `LastGiven`, `GivenBefore` — these two rules, stated of the sources alone;
* `Collects.put`, `Collects.skip` — what one more source does to a map;
* `collects_ofList` — a map built by writes is collected;
* `Collects.unique` — the two rules leave one map.
-/

namespace StringCatalog.OrderedMap

variable {σ : Type w} {κ : Type u} {α : Type v} {gives : σ → κ → α → Prop} {sources : List σ}

/-- The last of some sources that gives a key a value gives it this one. -/
def LastGiven (gives : σ → κ → α → Prop) (sources : List σ) (k : κ) (v : α) : Prop :=
  ∃ before x after, sources = before ++ x :: after ∧ gives x k v ∧ ∀ y ∈ after, ∀ w, ¬ gives y k w

/-- Some source gives `j` a value, and none before it gives one to `k`. -/
def GivenBefore (gives : σ → κ → α → Prop) (sources : List σ) (j k : κ) : Prop :=
  ∃ before x after v, sources = before ++ x :: after ∧ gives x j v ∧
    ∀ y ∈ before, ∀ w, ¬ gives y k w

/-- A map with the keys that are given values, in the order in which they are first given one, each
with the value that it is given last. -/
structure Collects [BEq κ] (gives : σ → κ → α → Prop) (sources : List σ) (m : OrderedMap κ α) :
    Prop where
  nodup : m.keys.Nodup
  get?_iff : ∀ k v, m.get? k = some v ↔ LastGiven gives sources k v
  ordered : m.keys.Pairwise (GivenBefore gives sources)

/-! ## What sources give -/

/-- What is given last: by the last source, or else by those before it. -/
theorem lastGiven_concat {x : σ} {k : κ} {v : α} :
    LastGiven gives (sources ++ [x]) k v ↔
      gives x k v ∨ (∀ w, ¬ gives x k w) ∧ LastGiven gives sources k v := by
  constructor
  · rintro ⟨before, y, after, heq, hy, hafter⟩
    rcases List.eq_nil_or_concat after with rfl | ⟨init, z, rfl⟩
    · obtain ⟨-, hxy⟩ := List.append_inj' heq rfl
      cases hxy
      exact .inl hy
    · rw [List.concat_eq_append] at heq hafter
      rw [← List.cons_append, ← List.append_assoc] at heq
      obtain ⟨hsources, hxz⟩ := List.append_inj' heq rfl
      cases hxz
      exact .inr ⟨hafter x (by simp), before, y, init, hsources, hy,
        fun z hz => hafter z (List.mem_append_left _ hz)⟩
  · rintro (hx | ⟨hx, before, y, after, rfl, hy, hafter⟩)
    · exact ⟨sources, x, [], rfl, hx, nofun⟩
    · refine ⟨before, y, after ++ [x], by simp, hy, fun z hz => ?_⟩
      rcases List.mem_append.1 hz with hz | hz
      · exact hafter z hz
      · rw [List.mem_singleton.1 hz]
        exact hx

/-- Of the sources that give a key a value there is a last one. -/
theorem exists_lastGiven_iff {k : κ} :
    (∃ v, LastGiven gives sources k v) ↔ ∃ x ∈ sources, ∃ v, gives x k v := by
  constructor
  · rintro ⟨v, before, x, after, rfl, hx, -⟩
    exact ⟨x, by simp, v, hx⟩
  · intro h
    induction sources with
    | nil => simp at h
    | cons y sources ih =>
        by_cases hlater : ∃ x ∈ sources, ∃ v, gives x k v
        · obtain ⟨v, before, x, after, rfl, hx, hafter⟩ := ih hlater
          exact ⟨v, y :: before, x, after, rfl, hx, hafter⟩
        · obtain ⟨x, hmem, v, hx⟩ := h
          rcases List.mem_cons.1 hmem with rfl | hmem
          · exact ⟨v, [], x, sources, rfl, hx, fun z hz w hw => hlater ⟨z, hz, w, hw⟩⟩
          · exact absurd ⟨x, hmem, v, hx⟩ hlater

/-- The order in which two keys are given first does not change with more sources. -/
theorem GivenBefore.concat {j k : κ} (h : GivenBefore gives sources j k) (x : σ) :
    GivenBefore gives (sources ++ [x]) j k := by
  obtain ⟨before, y, after, v, rfl, hy, hbefore⟩ := h
  exact ⟨before, y, after ++ [x], v, by simp, hy, hbefore⟩

/-- Two keys are not each given a value before the other. -/
theorem GivenBefore.antisymm {j k : κ}
    (hgives : ∀ x j v k w, gives x j v → gives x k w → j = k)
    (h : GivenBefore gives sources j k) (h' : GivenBefore gives sources k j) : j = k := by
  obtain ⟨before, x, after, v, rfl, hx, hbefore⟩ := h
  obtain ⟨before', x', after', v', heq, hx', hbefore'⟩ := h'
  rcases List.append_eq_append_iff.1 heq with ⟨between, rfl, hrest⟩ | ⟨between, rfl, hrest⟩
  · cases between with
    | nil =>
        obtain ⟨rfl, -⟩ := List.cons.inj hrest
        exact hgives x j v k v' hx hx'
    | cons y between =>
        obtain ⟨rfl, -⟩ := List.cons.inj hrest
        exact absurd hx (hbefore' x (by simp) v)
  · cases between with
    | nil =>
        obtain ⟨rfl, -⟩ := List.cons.inj hrest
        exact hgives x' j v k v' hx hx'
    | cons y between =>
        obtain ⟨rfl, -⟩ := List.cons.inj hrest
        exact absurd hx' (hbefore x' (by simp) v')

/-! ## Maps of what is given -/

section Maps

variable [BEq κ] [LawfulBEq κ] {m m' : OrderedMap κ α}

/-- A map has a key exactly if it has a value for it. -/
theorem mem_keys_iff {k : κ} : k ∈ m.keys ↔ ∃ v, m.get? k = some v := by
  rw [← Option.isSome_iff_exists, ← Option.ne_none_iff_isSome, Ne, get?_eq_none_iff]
  simp [keys]

/-- A map is what it says of its keys, in order. -/
theorem map_some_eq_map_keys (h : m.keys.Nodup) :
    List.map (fun e => (e.1, some e.2)) m = m.keys.map fun k => (k, m.get? k) := by
  rw [keys, List.map_map]
  refine List.map_congr_left fun e he => ?_
  rw [Function.comp_apply, (get?_eq_some_iff h).2 he]

namespace Collects

/-- The keys collected are those that some source gives something for. -/
theorem mem_keys (h : Collects gives sources m) {k : κ} :
    k ∈ m.keys ↔ ∃ x ∈ sources, ∃ v, gives x k v := by
  rw [mem_keys_iff, ← exists_lastGiven_iff]
  exact exists_congr fun v => h.get?_iff k v

/-- A source that gives a key a value is one more write. -/
theorem put (h : Collects gives sources m) {x : σ} {k : κ} {v : α}
    (hx : ∀ j w, gives x j w ↔ j = k ∧ w = v) : Collects gives (sources ++ [x]) (m.put k v) where
  nodup := nodup_keys_put m k v h.nodup
  get?_iff j w := by
    rw [lastGiven_concat]
    by_cases hj : j = k
    · subst hj
      simp [get?_put_self, hx, eq_comm]
    · simp [get?_put_of_ne m v hj, hx, hj, h.get?_iff]
  ordered := by
    have hordered := h.ordered.imp fun {_ _} hbefore => GivenBefore.concat hbefore x
    rw [keys_put]
    split
    · exact hordered
    · next hk =>
      refine List.pairwise_append.2 ⟨hordered, List.pairwise_singleton _ k, fun j hj i hi => ?_⟩
      -- a source of `j` comes before the new one, and no source so far gives `k` a value
      rw [List.mem_singleton.1 hi]
      rw [h.mem_keys] at hj hk
      obtain ⟨y, hy, w, hyj⟩ := hj
      obtain ⟨before, after, rfl⟩ := List.append_of_mem hy
      exact ⟨before, y, after ++ [x], w, by simp, hyj,
        fun z hz u hu => hk ⟨z, List.mem_append_left _ hz, u, hu⟩⟩

omit [LawfulBEq κ] in
/-- A source that gives nothing changes nothing. -/
theorem skip (h : Collects gives sources m) {x : σ} (hx : ∀ k v, ¬ gives x k v) :
    Collects gives (sources ++ [x]) m where
  nodup := h.nodup
  get?_iff k v := by
    rw [h.get?_iff, lastGiven_concat]
    simp [hx]
  ordered := h.ordered.imp fun {_ _} hbefore => hbefore.concat x

/-- One map is collected from given sources. -/
theorem unique (hgives : ∀ x j v k w, gives x j v → gives x k w → j = k)
    (h : Collects gives sources m) (h' : Collects gives sources m') : m = m' := by
  have hget : ∀ k, m.get? k = m'.get? k := fun k =>
    Option.ext fun v => (h.get?_iff k v).trans (h'.get?_iff k v).symm
  have hperm : m.keys.Perm m'.keys :=
    (List.perm_ext_iff_of_nodup h.nodup h'.nodup).2 fun k => h.mem_keys.trans h'.mem_keys.symm
  have hkeys : m.keys = m'.keys := hperm.eq_of_pairwise
    (fun _ _ _ _ hjk hkj => hjk.antisymm hgives hkj) h.ordered h'.ordered
  have hmaps : List.map (fun e => (e.1, some e.2)) m = List.map (fun e => (e.1, some e.2)) m' := by
    rw [map_some_eq_map_keys h.nodup, map_some_eq_map_keys h'.nodup, hkeys]
    exact List.map_congr_left fun k _ => by rw [hget]
  refine (List.map_inj_right fun e e' heq => ?_).1 hmaps
  rw [Prod.mk.injEq, Option.some.injEq] at heq
  exact Prod.ext heq.1 heq.2

end Collects

/-- The entry that a source writes is what it gives. -/
def Writes (f : σ → Option (κ × α)) (x : σ) (k : κ) (v : α) : Prop := f x = some (k, v)

/-- Writes after a collection make a collection of all the sources. -/
theorem collects_putAll {f : σ → Option (κ × α)} {before : List σ}
    (h : Collects (Writes f) before m) (sources : List σ) :
    Collects (Writes f) (before ++ sources) (m.putAll (sources.filterMap f)) := by
  induction sources generalizing before m with
  | nil =>
      rw [List.append_nil]
      exact h
  | cons x sources ih =>
      rw [← List.singleton_append, ← List.append_assoc, List.singleton_append]
      cases hx : f x with
      | none =>
          rw [List.filterMap_cons_none hx]
          exact ih (h.skip fun k v => by simp [Writes, hx])
      | some e =>
          rw [List.filterMap_cons_some hx]
          exact ih (h.put fun k v => by simp [Writes, hx, Prod.ext_iff, eq_comm])

/-- **A map built by writes is collected** from their sources. -/
theorem collects_ofList (f : σ → Option (κ × α)) (sources : List σ) :
    Collects (Writes f) sources (ofList (sources.filterMap f)) :=
  have hnil : Collects (Writes f) [] ([] : OrderedMap κ α) :=
    ⟨by simp [keys], by simp [get?, LastGiven], by simp [keys]⟩
  collects_putAll hnil sources

end Maps

end StringCatalog.OrderedMap
