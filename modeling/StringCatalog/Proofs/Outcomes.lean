/-!
# StringCatalog.Proofs.Outcomes

What a success of composed work says of its parts, and a failure of the part
that failed.

* `mapM_eq_ok_iff`, `mapM_eq_error_iff` — work on the members of a list, one
  after the other.
-/

namespace StringCatalog

variable {ε : Type u} {α : Type v} {β : Type w}

/-- A mapped success comes from a success. -/
theorem map_eq_ok {f : α → β} {x : Except ε α} {b : β} (h : x.map f = .ok b) :
    ∃ a, x = .ok a ∧ f a = b := by
  cases x with
  | error e => cases h
  | ok a => exact ⟨a, rfl, Except.ok.inj h⟩

theorem exists_ok_of_toOption_map {f : α → β} {x : Except ε α} {b : β}
    (h : x.toOption.map f = some b) : ∃ a, x = .ok a ∧ f a = b := by
  cases x with
  | error e => cases h
  | ok a => exact ⟨a, rfl, Option.some.inj h⟩

/-- Two steps succeed if each does. -/
theorem bind_eq_ok {f : α → Except ε β} {x : Except ε α} {b : β} (h : x.bind f = .ok b) :
    ∃ a, x = .ok a ∧ f a = .ok b := by
  cases x with
  | error e => cases h
  | ok a => exact ⟨a, rfl, h⟩

/-- Two steps fail if the first does, or the second after the first has succeeded. -/
theorem bind_eq_error_iff {β : Type v} {f : α → Except ε β} {x : Except ε α} {e : ε} :
    x >>= f = .error e ↔ x = .error e ∨ ∃ a, x = .ok a ∧ f a = .error e := by
  cases x <;> simp [bind, Except.bind]

/-- Mapping keeps failures as they are. -/
theorem map_eq_error_iff {f : α → β} {x : Except ε α} {e : ε} :
    x.map f = .error e ↔ x = .error e := by
  cases x <;> simp [Except.map]

/-! ## Lists -/

/-- A run over a list goes on after a step that succeeds. -/
theorem mapM_cons_ok {f : α → Except ε β} {x : α} {xs : List α} {y : β} (h : f x = .ok y) :
    (x :: xs).mapM f = (xs.mapM f).map (y :: ·) := by
  rw [List.mapM_cons, h]
  rfl

/-- It ends with the first step that fails. -/
theorem mapM_cons_error {f : α → Except ε β} {x : α} {e : ε} (h : f x = .error e) (xs : List α) :
    (x :: xs).mapM f = .error e := by
  rw [List.mapM_cons, h]
  rfl

/-- Work on a list succeeds with the results of all its members. -/
theorem mapM_eq_ok_iff {f : α → Except ε β} {xs : List α} {ys : List β} :
    xs.mapM f = .ok ys ↔ xs.map f = ys.map .ok := by
  induction xs generalizing ys with
  | nil => cases ys <;> simp [pure, Except.pure]
  | cons x xs ih =>
      cases hx : f x with
      | error e =>
          rw [mapM_cons_error hx, List.map_cons, hx]
          cases ys <;> simp
      | ok y =>
          rw [mapM_cons_ok hx, List.map_cons, hx]
          cases ys with
          | nil => cases xs.mapM f <;> simp [Except.map]
          | cons y' ys =>
              rw [List.map_cons, List.cons.injEq, ← ih]
              cases xs.mapM f <;> simp [Except.map]

/-- Work on a list fails with the failure of the first member that fails. -/
theorem mapM_eq_error_iff {f : α → Except ε β} {xs : List α} {e : ε} :
    xs.mapM f = .error e ↔ ∃ before x after, xs = before ++ x :: after ∧
      (∀ y ∈ before, ∃ b, f y = .ok b) ∧ f x = .error e := by
  induction xs with
  | nil => simp [pure, Except.pure]
  | cons x xs ih =>
      cases hx : f x with
      | error e' =>
          rw [mapM_cons_error hx]
          constructor
          · rintro ⟨⟩
            exact ⟨[], x, xs, rfl, nofun, hx⟩
          · rintro ⟨before, y, after, heq, hbefore, hy⟩
            cases before with
            | nil =>
                cases heq
                rw [← Except.error.inj (hx.symm.trans hy)]
            | cons z before =>
                cases heq
                obtain ⟨b, hb⟩ := hbefore x List.mem_cons_self
                rw [hx] at hb
                cases hb
      | ok y =>
          rw [mapM_cons_ok hx, map_eq_error_iff, ih]
          constructor
          · rintro ⟨before, z, after, rfl, hbefore, hz⟩
            exact ⟨x :: before, z, after, rfl, List.forall_mem_cons.2 ⟨⟨y, hx⟩, hbefore⟩, hz⟩
          · rintro ⟨before, z, after, heq, hbefore, hz⟩
            cases before with
            | nil =>
                cases heq
                rw [hx] at hz
                cases hz
            | cons _ before =>
                cases heq
                exact ⟨before, z, after, rfl, (List.forall_mem_cons.1 hbefore).2, hz⟩
end StringCatalog
