import StringCatalog.OrderedMap

/-!
# StringCatalog.Proofs.Maps

Facts on ordered maps that more than one part of the theory uses.

* `mapValues_putAll` — changing values and writing entries commute;
* `ofList_eq_self` — entries with keys of their own are the map they make;
* `get?_of_mem`, `mem_of_get?` — the entries of a map are what it says of keys;
* `get?_perm`, `get?_filter` — another order of the entries changes nothing, and
  leaving keys out leaves the others as they are.

`ofList_eq_self` and `get?_of_mem` hold for any test of keys, not only for
equality.
-/

namespace StringCatalog.OrderedMap

variable {κ : Type u} {α : Type v} {β : Type w}

theorem keys_mapValues (f : α → β) (m : OrderedMap κ α) : (m.mapValues f).keys = m.keys := by
  simp [mapValues, keys]

section Tested

variable [BEq κ]

/-- A map has the keys that it has values for. -/
theorem has_eq_isSome_get? (m : OrderedMap κ α) (k : κ) : m.has k = (m.get? k).isSome := by
  rw [has, get?, Option.isSome_map, List.isSome_find?]

/-- What a map says of a key is the value of one of its entries. -/
theorem exists_mem_of_get? {m : OrderedMap κ α} {k : κ} {v : α} (h : m.get? k = some v) :
    ∃ e ∈ m, e.2 = v := by
  obtain ⟨e, he, heq⟩ := Option.map_eq_some_iff.1 h
  exact ⟨e, List.mem_of_find?_eq_some he, heq⟩

/-- Leaving out entries of other keys leaves a key as it is. -/
theorem get?_filter_of_pass {m : OrderedMap κ α} {p : κ × α → Bool} {k : κ}
    (h : ∀ e, (e.1 == k) = true → p e = true) : get? (m.filter p) k = m.get? k := by
  rw [get?, get?, List.find?_filter]
  congr 2
  funext e
  cases hkey : e.1 == k with
  | false => simp
  | true => simpa using h e hkey

/-! ## Writes and values -/

/-- To write a value and then map it is to write the mapped value. -/
theorem mapValues_put (f : α → β) (m : OrderedMap κ α) (k : κ) (v : α) :
    (m.put k v).mapValues f = (m.mapValues f).put k (f v) := by
  induction m with
  | nil => rfl
  | cons e rest ih =>
      obtain ⟨k', v'⟩ := e
      by_cases h : (k' == k) = true
      · simp [put, mapValues, h]
      · have ih' : List.map (fun e => (e.1, f e.2)) (put rest k v) =
            put (List.map (fun e => (e.1, f e.2)) rest) k (f v) := ih
        simp [put, mapValues, h, ih']

/-- The same for many writes. -/
theorem mapValues_putAll (f : α → β) (m : OrderedMap κ α) (entries : List (κ × α)) :
    (m.putAll entries).mapValues f =
      (m.mapValues f).putAll (entries.map fun e => (e.1, f e.2)) := by
  induction entries generalizing m with
  | nil => rfl
  | cons e rest ih =>
      have h := ih (m.put e.1 e.2)
      rw [mapValues_put] at h
      exact h

/-! ## Keys of their own -/

/-- No key is taken for an earlier one. -/
def KeysApart (m : OrderedMap κ α) : Prop := m.Pairwise fun a b => (a.1 == b.1) = false

/-- A key that is not there goes to the end. -/
theorem put_of_new (m : OrderedMap κ α) {k : κ} (v : α) (h : ∀ e ∈ m, (e.1 == k) = false) :
    m.put k v = m ++ [(k, v)] := by
  induction m with
  | nil => rfl
  | cons e rest ih =>
      obtain ⟨k', v'⟩ := e
      have hk : (k' == k) = false := h (k', v') List.mem_cons_self
      have hrest := ih fun e he => h e (List.mem_cons_of_mem _ he)
      rw [put, if_neg (by simp [hk]), hrest, List.cons_append]

/-- New keys that are apart are appended. -/
theorem putAll_of_apart (m entries : OrderedMap κ α) (h : KeysApart (m ++ entries)) :
    m.putAll entries = m ++ entries := by
  induction entries generalizing m with
  | nil => rw [List.append_nil]; rfl
  | cons e rest ih =>
      have hnew : ∀ e' ∈ m, (e'.1 == e.1) = false := fun e' he' =>
        (List.pairwise_append.1 h).2.2 e' he' e List.mem_cons_self
      have hput : m.put e.1 e.2 = m ++ [e] := put_of_new m e.2 hnew
      have happ : m ++ e :: rest = m ++ [e] ++ rest := by rw [List.append_assoc]; rfl
      rw [happ] at h ⊢
      rw [← ih (m ++ [e]) h, ← hput]
      rfl

/-- Entries with keys of their own are the map they make. -/
theorem ofList_eq_self {entries : OrderedMap κ α} (h : KeysApart entries) :
    ofList entries = entries :=
  putAll_of_apart [] entries h

/-- After a write there is nothing but what was there and what was written. -/
theorem mem_put {m : OrderedMap κ α} {k : κ} {v : α} {e : κ × α} (h : e ∈ m.put k v) :
    (e.1 = k ∨ e.1 ∈ m.keys) ∧ (e.2 = v ∨ e.2 ∈ m.values) := by
  induction m with
  | nil =>
      rw [put, List.mem_singleton] at h
      simp [h]
  | cons e' rest ih =>
      rw [put] at h
      rw [keys, values, List.map_cons, List.map_cons, List.mem_cons, List.mem_cons]
      split at h <;> rcases List.mem_cons.1 h with rfl | h
      · exact ⟨.inr (.inl rfl), .inl rfl⟩
      · exact ⟨.inr (.inr (List.mem_map_of_mem h)), .inr (.inr (List.mem_map_of_mem h))⟩
      · exact ⟨.inr (.inl rfl), .inr (.inl rfl)⟩
      · exact ⟨(ih h).1.imp_right .inr, (ih h).2.imp_right .inr⟩

/-- A write keeps the keys apart. -/
theorem keysApart_put {m : OrderedMap κ α} (h : KeysApart m) (k : κ) (v : α) :
    KeysApart (m.put k v) := by
  induction m with
  | nil => exact List.pairwise_singleton _ _
  | cons e rest ih =>
      rw [KeysApart, List.pairwise_cons] at h
      rw [put]
      split
      · exact List.pairwise_cons.2 h
      · next hkey =>
        refine List.pairwise_cons.2 ⟨fun e' he' => ?_, ih h.2⟩
        rcases (mem_put he').1 with heq | hmem
        · rw [heq]
          exact Bool.eq_false_iff.2 hkey
        · obtain ⟨e'', he'', heq⟩ := List.mem_map.1 hmem
          rw [← heq]
          exact h.1 e'' he''

/-- Writes keep the keys apart, and what holds of the values. -/
theorem keysApart_putAll {p : α → Prop} {entries : OrderedMap κ α} (hentries : ∀ e ∈ entries, p e.2) :
    ∀ {m : OrderedMap κ α}, KeysApart m → (∀ e ∈ m, p e.2) →
      KeysApart (m.putAll entries) ∧ ∀ e ∈ m.putAll entries, p e.2 := by
  induction entries with
  | nil => exact fun h hm => ⟨h, hm⟩
  | cons e rest ih =>
      obtain ⟨he, hrest⟩ := List.forall_mem_cons.1 hentries
      intro m h hm
      refine ih hrest (keysApart_put h e.1 e.2) fun e' he' => ?_
      rcases (mem_put he').2 with heq | hmem
      · exact heq ▸ he
      · obtain ⟨e'', he'', heq⟩ := List.mem_map.1 hmem
        exact heq ▸ hm e'' he''

/-- A map made by writes has its keys apart, and its values are values written. -/
theorem keysApart_ofList {p : α → Prop} {entries : OrderedMap κ α} (h : ∀ e ∈ entries, p e.2) :
    KeysApart (ofList entries) ∧ ∀ e ∈ ofList entries, p e.2 :=
  keysApart_putAll h List.Pairwise.nil nofun

/-- An entry of a map is found by its key. -/
theorem get?_of_mem {m : OrderedMap κ α} (h : KeysApart m) {k : κ} {v : α} (hmem : (k, v) ∈ m)
    (hk : (k == k) = true) : m.get? k = some v := by
  induction m with
  | nil => cases hmem
  | cons e rest ih =>
      rw [KeysApart, List.pairwise_cons] at h
      cases hmem with
      | head => simp [get?, hk]
      | tail _ hmem =>
          have he : (e.1 == k) = false := h.1 (k, v) hmem
          simpa [get?, List.find?_cons, he] using ih h.2 hmem

end Tested

section Equal

variable [BEq κ] [LawfulBEq κ]

theorem keysApart_iff_nodup {m : OrderedMap κ α} : KeysApart m ↔ m.keys.Nodup := by
  simp [KeysApart, keys, List.Nodup, List.pairwise_map]

/-- What a map says of a key is one of its entries. -/
theorem mem_of_get? {m : OrderedMap κ α} {k : κ} {v : α} (h : m.get? k = some v) : (k, v) ∈ m := by
  obtain ⟨e, he, rfl⟩ := Option.map_eq_some_iff.1 h
  have hk : e.1 = k := by simpa using List.find?_some he
  rw [← hk]
  exact List.mem_of_find?_eq_some he

/-- With keys apart, a value is got exactly if its entry is there. -/
theorem get?_eq_some_iff {m : OrderedMap κ α} (h : m.keys.Nodup) {k : κ} {v : α} :
    m.get? k = some v ↔ (k, v) ∈ m :=
  ⟨mem_of_get?, fun hmem => get?_of_mem (keysApart_iff_nodup.2 h) hmem (beq_self_eq_true k)⟩

/-- A map has a value of a key exactly when it has an entry of that key. -/
theorem get?_eq_none_iff {m : OrderedMap κ α} {k : κ} : m.get? k = none ↔ ∀ e ∈ m, e.1 ≠ k := by
  simp [get?]

/-- A map has a key if one of its entries does. -/
theorem has_eq_true_iff {m : OrderedMap κ α} {k : κ} : m.has k = true ↔ ∃ e ∈ m, e.1 = k := by
  simp [has]

/-- A map has no value of the keys that are not its own. -/
theorem has_eq_false_iff {m : OrderedMap κ α} {k : κ} : m.has k = false ↔ k ∉ m.keys := by
  simp [Bool.eq_false_iff, has_eq_true_iff, keys]

/-- The order of the entries makes no difference to what a map says of keys. -/
theorem get?_perm {m m' : OrderedMap κ α} (h : m.Perm m') (hnodup : m.keys.Nodup) (k : κ) :
    m.get? k = m'.get? k := by
  have hnodup' : m'.keys.Nodup := (h.map _).nodup_iff.1 hnodup
  ext v
  rw [get?_eq_some_iff hnodup, get?_eq_some_iff hnodup', h.mem_iff]

/-- Leaving out some keys leaves the others as they are. -/
theorem get?_filter (m : OrderedMap κ α) (p : κ → Bool) (k : κ) :
    get? (m.filter fun e => p e.1) k = if p k then m.get? k else none := by
  induction m with
  | nil => simp [get?]
  | cons e rest ih =>
      obtain ⟨k', v⟩ := e
      by_cases hk : k' = k
      · subst hk
        by_cases hp : p k' = true
        · simp [get?, hp]
        · simpa [get?, hp] using ih
      · by_cases hp : p k' = true
        · simpa [get?, hp, hk] using ih
        · simpa [get?, hp, hk] using ih

end Equal

end StringCatalog.OrderedMap
