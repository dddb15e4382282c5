import StringCatalog.Proofs.Maps
import StringCatalog.Proofs.Outcomes

/-!
# StringCatalog.Proofs.Pool

Jobs that are shared out among workers.  A free worker takes the next job that
waits, and jobs end in any order.  Results are kept under the numbers of their
jobs; they are looked at in the order of the jobs, up to the first failure.

* `Pool.Sound` — every job waits, is in hand or has its result, which every step
  keeps (`Sound.step`, `Reached.sound`);
* `Reached.outcome_eq_mapM` — what is seen is what one worker alone would see;
* `Reached.outcome_ne_none` — a pool that cannot go on has been seen to its end, and
  no pool goes on for ever (`Step.left_lt`).
-/

namespace StringCatalog

/-- Jobs that wait and jobs in hand, each with its number, and the results there are. -/
structure Pool (ε : Type u) (α : Type v) (β : Type w) where
  waiting : List (Nat × α)
  running : List (Nat × α)
  results : OrderedMap Nat (Except ε β)

namespace Pool

variable {ε : Type u} {α : Type v} {β : Type w} {work : α → Except ε β} {workers : Nat}
  {jobs : List α} {p p' : Pool ε α β}

/-- A pool of which no job has been taken. -/
def new (jobs : List α) : Pool ε α β := ⟨jobs.zipIdx.map fun j => (j.2, j.1), [], []⟩

/-- A job is taken by a worker that is free, or one of the jobs in hand ends. -/
inductive Step (work : α → Except ε β) (workers : Nat) : Pool ε α β → Pool ε α β → Prop where
  | take {job : Nat × α} {waiting running : List (Nat × α)} {results : OrderedMap Nat (Except ε β)}
      (h : running.length < workers) :
      Step work workers ⟨job :: waiting, running, results⟩ ⟨waiting, running ++ [job], results⟩
  | finish {n : Nat} {a : α} {waiting before after : List (Nat × α)}
      {results : OrderedMap Nat (Except ε β)} :
      Step work workers ⟨waiting, before ++ (n, a) :: after, results⟩
        ⟨waiting, before ++ after, (n, work a) :: results⟩

/-- A pool that comes about when workers do some jobs. -/
inductive Reached (work : α → Except ε β) (workers : Nat) (jobs : List α) : Pool ε α β → Prop where
  | new : Reached work workers jobs (.new jobs)
  | step {q q' : Pool ε α β} (h : Reached work workers jobs q) (hstep : Step work workers q q') :
      Reached work workers jobs q'

/-- The results of jobs up to the first failure, if all of these are there. -/
def joined (results : OrderedMap Nat (Except ε β)) : List Nat → Option (Except ε (List β))
  | [] => some (.ok [])
  | n :: ns =>
    match results.get? n with
    | none => none
    | some (.error e) => some (.error e)
    | some (.ok b) => (joined results ns).map fun outcome => outcome.map (b :: ·)

/-- What is seen of the results in the order of the jobs. -/
def outcome (p : Pool ε α β) (jobs : List α) : Option (Except ε (List β)) :=
  joined p.results (List.range' 0 jobs.length)

/-! ## The invariant -/

/-- Every job of a list waits, is in hand or has its result. -/
structure Sound (work : α → Except ε β) (jobs : List α) (p : Pool ε α β) : Prop where
  pending : ∀ j ∈ p.waiting ++ p.running, jobs[j.1]? = some j.2
  results : ∀ r ∈ p.results, ∃ a, jobs[r.1]? = some a ∧ r.2 = work a
  covered : ∀ n < jobs.length,
    (∃ j ∈ p.waiting ++ p.running, j.1 = n) ∨ ∃ r ∈ p.results, r.1 = n

/-- A new pool is sound. -/
theorem sound_new (work : α → Except ε β) (jobs : List α) : Sound work jobs (new jobs) where
  pending j hj := by
    rw [new, List.append_nil, List.mem_map] at hj
    obtain ⟨⟨a, n⟩, hmem, rfl⟩ := hj
    exact List.mem_zipIdx_iff_getElem?.1 hmem
  results r hr := nomatch hr
  covered n hn := by
    refine .inl ⟨(n, jobs[n]), ?_, rfl⟩
    rw [new, List.append_nil, List.mem_map]
    exact ⟨(jobs[n], n), List.mem_zipIdx_iff_getElem?.2 (List.getElem?_eq_getElem hn), rfl⟩

/-- A step keeps a pool sound. -/
theorem Sound.step (h : Sound work jobs p) (hstep : Step work workers p p') :
    Sound work jobs p' := by
  cases hstep with
  | @take job waiting running results _ =>
      have hmem : ∀ j, j ∈ waiting ++ (running ++ [job]) ↔ j ∈ job :: waiting ++ running := by
        intro j
        simp only [List.mem_append, List.mem_cons, List.not_mem_nil, or_false]
        grind
      refine ⟨fun j hj => h.pending j ((hmem j).1 hj), h.results, fun n hn => ?_⟩
      refine (h.covered n hn).imp_left fun ⟨j, hj, heq⟩ => ⟨j, (hmem j).2 hj, heq⟩
  | @finish n a waiting before after results =>
      have hmem : ∀ j, j ∈ waiting ++ (before ++ (n, a) :: after) ↔
          j ∈ waiting ++ (before ++ after) ∨ j = (n, a) := by
        intro j
        simp only [List.mem_append, List.mem_cons]
        grind
      refine ⟨fun j hj => h.pending j ((hmem j).2 (.inl hj)), ?_, fun k hk => ?_⟩
      · exact List.forall_mem_cons.2 ⟨⟨a, h.pending (n, a) ((hmem _).2 (.inr rfl)), rfl⟩, h.results⟩
      · rcases h.covered k hk with ⟨j, hj, heq⟩ | ⟨r, hr, heq⟩
        · rcases (hmem j).1 hj with hj | rfl
          · exact .inl ⟨j, hj, heq⟩
          · exact .inr ⟨(n, work a), List.mem_cons_self, heq⟩
        · exact .inr ⟨r, List.mem_cons_of_mem _ hr, heq⟩

/-- Every pool that is reached is sound. -/
theorem Reached.sound (h : Reached work workers jobs p) : Sound work jobs p := by
  induction h with
  | new => exact sound_new work jobs
  | step _ hstep ih => exact ih.step hstep

/-! ## What is seen -/

/-- The result that is kept under a number is that of the job of this number. -/
theorem Sound.get?_eq (h : Sound work jobs p) {n : Nat} {r : Except ε β}
    (hr : p.results.get? n = some r) {a : α} (ha : jobs[n]? = some a) : r = work a := by
  obtain ⟨a', ha', rfl⟩ := h.results (n, r) (OrderedMap.mem_of_get? hr)
  rw [ha] at ha'
  rw [Option.some.inj ha']

/-- The results of a sound pool, joined in the order of the jobs, are those of one run over them.
-/
theorem Sound.joined_eq (h : Sound work jobs p) {rest : List α} {n : Nat}
    (hrest : jobs.drop n = rest) {o : Except ε (List β)}
    (hjoined : joined p.results (List.range' n rest.length) = some o) : o = rest.mapM work := by
  induction rest generalizing n o with
  | nil => exact (Option.some.inj hjoined).symm
  | cons a rest ih =>
      have hn : n < jobs.length := by
        refine Nat.lt_of_not_le fun hle => ?_
        rw [List.drop_eq_nil_of_le hle] at hrest
        cases hrest
      rw [List.drop_eq_getElem_cons hn, List.cons.injEq] at hrest
      obtain ⟨rfl, hdrop⟩ := hrest
      rw [List.length_cons, List.range'_succ, joined] at hjoined
      split at hjoined
      · cases hjoined
      · next e hresult =>
        have hwork := h.get?_eq hresult (List.getElem?_eq_getElem hn)
        rw [mapM_cons_error hwork.symm, ← Option.some.inj hjoined]
      · next b hresult =>
        have hwork := h.get?_eq hresult (List.getElem?_eq_getElem hn)
        obtain ⟨o', ho', rfl⟩ := Option.map_eq_some_iff.1 hjoined
        rw [mapM_cons_ok hwork.symm, ih hdrop ho']

/-- **However many workers share the jobs**, what is seen of their results is what comes of doing
the jobs one after the other. -/
theorem Reached.outcome_eq_mapM (h : Reached work workers jobs p) {o : Except ε (List β)}
    (ho : p.outcome jobs = some o) : o = jobs.mapM work :=
  h.sound.joined_eq (List.drop_zero (l := jobs)) ho

/-! ## Going on -/

/-- What is left to do: taking and doing the jobs that wait, doing those in hand. -/
def left (p : Pool ε α β) : Nat := 2 * p.waiting.length + p.running.length

/-- Every step leaves less to do. -/
theorem Step.left_lt (h : Step work workers p p') : p'.left < p.left := by
  cases h <;> simp only [left, List.length_cons, List.length_append, List.length_nil] <;> omega

/-- With a worker, there is a step as long as something is waiting or running. -/
theorem exists_step (hworkers : 0 < workers) (h : p.waiting ≠ [] ∨ p.running ≠ []) :
    ∃ p', Step work workers p p' := by
  obtain ⟨waiting, running, results⟩ := p
  cases running with
  | cons j running =>
      exact ⟨_, @Step.finish _ _ _ work workers j.1 j.2 waiting [] running results⟩
  | nil =>
      cases waiting with
      | nil => simp at h
      | cons j waiting => exact ⟨_, .take hworkers⟩

/-- Results that are all there can be joined. -/
theorem joined_ne_none {results : OrderedMap Nat (Except ε β)} {ns : List Nat}
    (h : ∀ n ∈ ns, results.get? n ≠ none) : joined results ns ≠ none := by
  induction ns with
  | nil => nofun
  | cons n ns ih =>
      rw [List.forall_mem_cons] at h
      rw [joined]
      split
      · next hnone => exact absurd hnone h.1
      · nofun
      · simpa using ih h.2

/-- **A pool that cannot go on** has been seen to its end. -/
theorem Reached.outcome_ne_none (h : Reached work workers jobs p) (hworkers : 0 < workers)
    (hstuck : ∀ p', ¬ Step work workers p p') : p.outcome jobs ≠ none := by
  have hpending : p.waiting ++ p.running = [] := by
    refine Classical.byContradiction fun hne => ?_
    rw [List.append_eq_nil_iff, Classical.not_and_iff_not_or_not] at hne
    obtain ⟨p', hstep⟩ := exists_step hworkers hne
    exact hstuck p' hstep
  refine joined_ne_none fun n hn => ?_
  have hlt : n < jobs.length := by simpa using hn
  rcases h.sound.covered n hlt with ⟨j, hj, -⟩ | ⟨r, hr, heq⟩
  · rw [hpending] at hj
    cases hj
  · exact fun hnone => OrderedMap.get?_eq_none_iff.1 hnone r hr heq

end Pool

end StringCatalog
