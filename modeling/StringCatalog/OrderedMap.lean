/-!
# StringCatalog.OrderedMap

Maps that remember the order in which their keys first came in.  They are
lists of pairs; writing a key that is already there replaces its value and
leaves it where it stands.

* `keys_put` — a write appends a new key and keeps the keys otherwise;
* `get?_put_self`, `get?_put_of_ne` — what a write changes and what it does not;
* `nodup_keys_ofList` — a map built by writes holds every key once.
-/

namespace StringCatalog

/-- A map as the list of its entries, in the order in which the keys came in. -/
abbrev OrderedMap (κ : Type u) (α : Type v) := List (κ × α)

namespace OrderedMap

variable {κ : Type u} {α : Type v} [BEq κ]

def get? (m : OrderedMap κ α) (k : κ) : Option α :=
  (m.find? fun e => e.1 == k).map (·.2)

def has (m : OrderedMap κ α) (k : κ) : Bool := m.any fun e => e.1 == k

/-- Writes a value: a new key goes to the end, a known one keeps its place. -/
def put (m : OrderedMap κ α) (k : κ) (v : α) : OrderedMap κ α :=
  match m with
  | [] => [(k, v)]
  | (k', v') :: rest => if k' == k then (k', v) :: rest else (k', v') :: put rest k v

/-- Writes all entries of a list, from left to right. -/
def putAll (m : OrderedMap κ α) (entries : List (κ × α)) : OrderedMap κ α :=
  entries.foldl (fun acc e => acc.put e.1 e.2) m

/-- The map that a list of writes leaves behind. -/
def ofList (entries : List (κ × α)) : OrderedMap κ α := putAll [] entries

def keys (m : OrderedMap κ α) : List κ := List.map (·.1) m

def values (m : OrderedMap κ α) : List α := List.map (·.2) m

/-- Changes every value and no key. -/
def mapValues {β : Type w} (f : α → β) (m : OrderedMap κ α) : OrderedMap κ β :=
  List.map (fun e => (e.1, f e.2)) m

/-! ## What a write does -/

variable [LawfulBEq κ]

/-- A write appends a key that is new and changes no key otherwise. -/
theorem keys_put (m : OrderedMap κ α) (k : κ) (v : α) :
    (m.put k v).keys = if k ∈ m.keys then m.keys else m.keys ++ [k] := by
  induction m with
  | nil => simp [put, keys]
  | cons e rest ih =>
    obtain ⟨k', v'⟩ := e
    by_cases h : k' = k
    · simp [put, keys, h]
    · have h' : ¬ k = k' := fun e => h e.symm
      simp only [put, beq_iff_eq, h, if_false]
      simp only [keys, List.map_cons, List.mem_cons, h', false_or] at ih ⊢
      rw [ih]
      split <;> simp [*]

/-- The key just written has the value just written. -/
theorem get?_put_self (m : OrderedMap κ α) (k : κ) (v : α) : (m.put k v).get? k = some v := by
  induction m with
  | nil => simp [put, get?]
  | cons e rest ih =>
    obtain ⟨k', v'⟩ := e
    by_cases h : k' = k
    · simp [put, get?, h]
    · simp only [put, beq_iff_eq, h, if_false]
      simpa [get?, List.find?_cons, h] using ih

/-- Every other key keeps its value. -/
theorem get?_put_of_ne (m : OrderedMap κ α) {k k' : κ} (v : α) (hk : k' ≠ k) :
    (m.put k v).get? k' = m.get? k' := by
  induction m with
  | nil => simp [put, get?, Ne.symm hk]
  | cons e rest ih =>
    obtain ⟨j, w⟩ := e
    by_cases h : j = k
    · subst h
      simp [put, get?, Ne.symm hk]
    · simp only [put, beq_iff_eq, h, if_false]
      by_cases hj : j = k'
      · simp [get?, hj]
      · simpa [get?, List.find?_cons, hj] using ih

/-- A write keeps the keys distinct. -/
theorem nodup_keys_put (m : OrderedMap κ α) (k : κ) (v : α) (h : m.keys.Nodup) :
    (m.put k v).keys.Nodup := by
  rw [keys_put]
  split
  · exact h
  · next hk =>
    rw [List.nodup_append]
    refine ⟨h, by simp, ?_⟩
    intro a ha b hb hab
    simp only [List.mem_singleton] at hb
    exact hk (hb ▸ hab ▸ ha)

/-- Writes keep the keys distinct. -/
theorem nodup_keys_putAll (entries : List (κ × α)) :
    ∀ (m : OrderedMap κ α), m.keys.Nodup → (m.putAll entries).keys.Nodup := by
  induction entries with
  | nil => intro m h; exact h
  | cons e rest ih => intro m h; exact ih _ (nodup_keys_put m e.1 e.2 h)

/-- A map built by writes holds every key once. -/
theorem nodup_keys_ofList (entries : List (κ × α)) : (ofList entries).keys.Nodup :=
  nodup_keys_putAll entries [] (by simp [keys])

end OrderedMap

end StringCatalog
