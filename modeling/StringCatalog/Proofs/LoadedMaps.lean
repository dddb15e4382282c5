import StringCatalog.Proofs.Maps
import StringCatalog.Proofs.Outcomes
import StringCatalog.Yaml.Load

/-!
# StringCatalog.Proofs.LoadedMaps

The maps in what a configuration text is read as.  They are made by writes, the
merged entries first, so that no key of theirs is taken for an earlier one.

* `isKeyed_node` — a node has such a value, whatever its kind (`Loaded.IsKeyed`);
* `isKeyed_of_load` — every map in the value of a text has its keys apart
  (`Value.IsKeyed`).
-/

namespace StringCatalog

/-- A value in which a map has its keys apart, and so have the maps among its values. -/
inductive Value.IsKeyed : Value → Prop where
  | map {entries : OrderedMap Value Value} (h : OrderedMap.KeysApart entries)
      (hvalues : ∀ e ∈ entries, IsKeyed e.2) : IsKeyed (.map entries)
  | other {v : Value} (h : ∀ entries, v ≠ .map entries) : IsKeyed v

namespace Yaml

variable {kind : Kind} {s : String} {v : Value}

/-- A moment is no map. -/
theorem momentValue_ne_map (h : momentValue s = .ok v) (entries : List (Value × Value)) :
    v ≠ .map entries := by
  unfold momentValue at h
  split at h
  · cases h
  · split at h
    · cases h
    · split at h <;> cases h <;> nofun

/-- A scalar is no map. -/
theorem scalarValue_ne_map (h : scalarValue kind s = .ok v) (entries : List (Value × Value)) :
    v ≠ .map entries := by
  unfold scalarValue at h
  cases kind <;> dsimp only at h
  case bool =>
    split at h
    · cases h
      nofun
    · cases h
  case int | float =>
    obtain ⟨_, _, rfl⟩ := map_eq_ok h
    nofun
  case binary =>
    split at h
    · obtain ⟨_, _, rfl⟩ := map_eq_ok h
      nofun
    · cases h
  case moment => exact momentValue_ne_map h entries
  all_goals cases h
  all_goals nofun

/-- The nodes that are values in a node: the items of a sequence, or the values of a mapping. -/
def Shape.values {α : Type} : Shape α → List α
  | .scalar => []
  | .sequence items => items
  | .mapping entries _ => entries.map (·.2)

namespace Loaded

/-- A node whose value is keyed, and so are the values in it. -/
inductive IsKeyed : Loaded → Prop where
  | mk {kind : Kind} {shape : Shape Loaded} {text : Option String} {value : Value}
      {faults : List (Nat × Error)} (hvalue : value.IsKeyed)
      (hparts : ∀ l ∈ shape.values, IsKeyed l) : IsKeyed (.mk kind shape text value faults)

variable {shape : Shape Loaded} {l : Loaded} {items : List Loaded}
  {entries : List (Loaded × Loaded)}

/-- The value of a node that is keyed all through is keyed. -/
theorem IsKeyed.value (h : l.IsKeyed) : l.value.IsKeyed := by
  cases h with
  | mk hvalue => exact hvalue

/-- Its parts are keyed all through as well. -/
theorem IsKeyed.parts (h : l.IsKeyed) : ∀ p ∈ l.shape.values, p.IsKeyed := by
  cases h with
  | mk _ hparts => exact hparts

/-- The parts of a mapping are the values of its entries. -/
theorem forall_values_mapping {isMerged : Bool} :
    (∀ l ∈ (Shape.mapping entries isMerged).values, l.IsKeyed) ↔ ∀ e ∈ entries, e.2.IsKeyed :=
  List.forall_mem_map

theorem isKeyed_faulty (hparts : ∀ l ∈ shape.values, l.IsKeyed) (text : Option String)
    (level : Nat) : (faulty kind shape text level).IsKeyed :=
  .mk (.other nofun) hparts

/-- A node that is read as a scalar is keyed if its parts are. -/
theorem isKeyed_asScalar (hparts : ∀ l ∈ shape.values, l.IsKeyed) (kind : Kind) (s : String) :
    (asScalar kind shape s).IsKeyed := by
  unfold asScalar
  split
  · next h => exact .mk (.other (scalarValue_ne_map h)) hparts
  · exact .mk (.other nofun) hparts

/-- A sequence is keyed if its items are. -/
theorem isKeyed_ofSequence (hitems : ∀ l ∈ items, l.IsKeyed) (kind : Kind) :
    (ofSequence kind items).IsKeyed := by
  have hparts : ∀ l ∈ (Shape.sequence items).values, l.IsKeyed := hitems
  unfold ofSequence
  dsimp only
  split
  · exact .mk (.other nofun) hparts
  · exact .mk (.other nofun) hparts
  · exact .mk (.other nofun) hparts
  · exact isKeyed_faulty hparts none 0

/-- What a run of steps returns comes from the members it ran over. -/
theorem exists_of_mem_mapM {α β : Type} {f : α → Option β} {xs : List α} {ys : List β}
    (h : xs.mapM f = some ys) : ∀ y ∈ ys, ∃ x ∈ xs, f x = some y := by
  induction xs generalizing ys with
  | nil =>
      cases h
      nofun
  | cons x xs ih =>
      rw [List.mapM_cons] at h
      obtain ⟨y, hy, h⟩ := Option.bind_eq_some_iff.1 h
      obtain ⟨zs, hzs, h⟩ := Option.bind_eq_some_iff.1 h
      cases h
      refine List.forall_mem_cons.2 ⟨⟨x, List.mem_cons_self, hy⟩, fun z hz => ?_⟩
      obtain ⟨w, hw, heq⟩ := ih hzs z hz
      exact ⟨w, List.mem_cons_of_mem x hw, heq⟩

/-- What a merge key brings in is keyed. -/
theorem isKeyed_mergedEntries (hl : l.IsKeyed) (h : mergedEntries l = some entries) :
    ∀ e ∈ entries, e.2.IsKeyed := by
  unfold mergedEntries at h
  extract_lets entriesOf at h
  have hown : ∀ {l : Loaded} {entries : List (Loaded × Loaded)}, l.IsKeyed →
      entriesOf l = some entries → ∀ e ∈ entries, e.2.IsKeyed := by
    intro l entries hl h
    have hparts := hl.parts
    dsimp only [entriesOf] at h
    split at h
    · next hshape =>
      cases h
      rw [hshape] at hparts
      exact forall_values_mapping.1 hparts
    · cases h
  have hparts := hl.parts
  split at h
  · next hshape =>
    rw [hshape] at hparts
    obtain ⟨ls, hls, rfl⟩ := Option.map_eq_some_iff.1 h
    intro e he
    obtain ⟨es, hes, he⟩ := List.mem_flatten.1 he
    obtain ⟨item, hitem, hitems⟩ := exists_of_mem_mapM hls es (List.mem_reverse.1 hes)
    exact hown (hparts item hitem) hitems e he
  · exact hown hl h

/-- A mapping is keyed if the values of its entries are. -/
theorem isKeyed_ofMapping (hentries : ∀ e ∈ entries, e.2.IsKeyed) (kind : Kind) :
    (ofMapping kind entries).IsKeyed := by
  unfold ofMapping
  extract_lets own merged isMap text
  have hown : ∀ e ∈ own, e.2.IsKeyed := fun e he => by
    obtain ⟨e', he', rfl⟩ := List.mem_map.1 he
    exact hentries e' (List.mem_filter.1 he').1
  obtain hmerged | ⟨brought, hbrought⟩ := Option.eq_none_or_eq_some merged
  · rw [hmerged]
    exact isKeyed_faulty (forall_values_mapping.2 hown) text _
  · rw [hbrought]
    have hall : ∀ e ∈ brought.flatten ++ own, e.2.IsKeyed := by
      refine List.forall_mem_append.2 ⟨fun e he => ?_, hown⟩
      obtain ⟨es, hes, he⟩ := List.mem_flatten.1 he
      obtain ⟨e', he', heq⟩ := exists_of_mem_mapM hbrought es hes
      exact isKeyed_mergedEntries (hentries e' (List.mem_filter.1 he').1) heq e he
    have hvalues : ∀ e ∈ (brought.flatten ++ own).map fun e => (e.1.value, e.2.value),
        e.2.IsKeyed :=
      List.forall_mem_map.2 fun e he => (hall e he).value
    obtain ⟨hapart, hkeyed⟩ := OrderedMap.keysApart_ofList hvalues
    dsimp only
    clear_value text
    split
    · exact .mk (.map hapart hkeyed) (forall_values_mapping.2 hall)
    · exact .mk (.other nofun) (forall_values_mapping.2 hall)
    · split
      · exact isKeyed_asScalar (forall_values_mapping.2 hall) kind _
      · exact isKeyed_faulty (forall_values_mapping.2 hall) _ 0
    · exact isKeyed_faulty (forall_values_mapping.2 hall) _ 0

end Loaded

mutual

/-- **The value of a node is keyed.** -/
theorem isKeyed_node (n : Node) : n.load.IsKeyed := by
  cases n with
  | scalar m s => exact Loaded.isKeyed_asScalar (fun _ h => absurd h List.not_mem_nil) _ s
  | sequence m items => exact Loaded.isKeyed_ofSequence (isKeyed_items items) _
  | mapping m entries => exact Loaded.isKeyed_ofMapping (isKeyed_entries entries) _

/-- All items of a sequence are keyed. -/
theorem isKeyed_items (ns : List Node) : ∀ l ∈ loadItems ns, l.IsKeyed := by
  cases ns with
  | nil => nofun
  | cons n ns => exact List.forall_mem_cons.2 ⟨isKeyed_node n, isKeyed_items ns⟩

/-- So are all values of a mapping. -/
theorem isKeyed_entries (es : List (Node × Node)) : ∀ e ∈ loadEntries es, e.2.IsKeyed := by
  cases es with
  | nil => nofun
  | cons e es => exact List.forall_mem_cons.2 ⟨isKeyed_node e.2, isKeyed_entries es⟩

end

/-- **The value of a text is keyed.** -/
theorem isKeyed_of_load (h : load s = .ok v) : v.IsKeyed := by
  unfold load at h
  dsimp only at h
  split at h
  · cases h
  · obtain ⟨ts, -, h⟩ := bind_eq_ok h
    obtain ⟨document, -, h⟩ := bind_eq_ok h
    split at h
    · cases h
      exact .other nofun
    · next n =>
      split at h <;> cases h
      exact (isKeyed_node n).value

end Yaml

end StringCatalog
