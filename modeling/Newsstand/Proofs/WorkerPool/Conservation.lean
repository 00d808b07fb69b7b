import Newsstand.Proofs.WorkerPool.Turn
import Newsstand.WorkerPool.Run

/-!
# Nothing is lost in a run

Workers come back to a pool in many ways: a holder gives one back, a caller
gives up a worker that was assigned and never taken, a name is used for another
worker.  Callers leave the queue in as many.  A run knows its holders and its
waiting callers by name, and the pool only counts workers and numbers places.
After any steps the two agree, and nobody waits beside a free worker.
-/

namespace Newsstand.WorkerPool.Run

/-- The places at which the callers of a run wait. -/
def places (r : Run) : Multiset ℕ :=
  ↑(r.waiting.map Prod.snd)

/-- The number of waiting callers who have been assigned a worker. -/
def assigned (r : Run) : ℕ :=
  r.waiting.countP fun caller => r.pool.isAssigned caller.2

/-- The pool agrees with the names of a run.  `taken` workers and the places
`joined` have been given out in the step that is on, and go by no name yet. -/
structure InOrder (r : Run) (taken : ℕ) (joined : Multiset ℕ) : Prop where
  staffed : r.pool.Staffed (r.holders.length + taken) (joined + r.places)
  inTurn : r.pool.InTurn
  holders : r.holders.Nodup
  callers : (r.waiting.map Prod.fst).Nodup

variable {r : Run} {taken : ℕ} {joined : Multiset ℕ}

theorem inOrder_start (name : String) (size queueDepth : ℕ) :
    (start (create name size queueDepth)).InOrder 0 0 :=
  ⟨staffed_create _ _ _, inTurn_create _ _ _, List.nodup_nil, List.nodup_nil⟩

/-! ## Names -/

theorem InOrder.release (h : r.InOrder taken joined) (caller : String) :
    (r.release caller).2.InOrder taken joined := by
  unfold Run.release
  split
  next hheld =>
      have hmem : caller ∈ r.holders := by simpa using hheld
      have hfilter := h.holders.erase_eq_filter caller
      have hlength := List.length_erase_add_one hmem
      have hstaffed := h.staffed
      rw [← hlength, Nat.add_right_comm, hfilter] at hstaffed
      exact ⟨hstaffed.release, h.inTurn.release, h.holders.filter _,
        h.callers⟩
  next => exact h

theorem not_mem_holders_release (r : Run) (caller : String) :
    caller ∉ (r.release caller).2.holders := by
  unfold Run.release
  split
  next => simp
  next hheld => simpa using hheld

/-- Under a name there is one place. -/
theorem InOrder.places_of_lookup (h : r.InOrder taken joined)
    {caller : String} {number : ℕ}
    (hlookup : r.waiting.lookup caller = some number) :
    r.places = number ::ₘ
      ↑((r.waiting.filter (·.1 != caller)).map Prod.snd) := by
  have hperm := perm_cons_filter_key h.callers (mem_of_lookup hlookup)
  exact Multiset.coe_eq_coe.mpr (hperm.map Prod.snd)

theorem InOrder.cancel (h : r.InOrder taken joined) (caller : String) :
    (r.cancel caller).2.InOrder taken joined := by
  unfold Run.cancel
  split
  next => exact h
  next number hlookup =>
      have hstaffed := h.staffed
      rw [h.places_of_lookup hlookup, Multiset.add_cons] at hstaffed
      exact ⟨hstaffed.cancel, h.inTurn.cancel number, h.holders,
        nodup_map_filter h.callers _⟩

theorem not_mem_callers_cancel (r : Run) (caller : String) :
    caller ∉ (r.cancel caller).2.waiting.map Prod.fst := by
  unfold Run.cancel
  split
  next hlookup =>
      intro hmem
      obtain ⟨entry, hentry, hname⟩ := List.mem_map.mp hmem
      have hne := List.lookup_eq_none_iff.mp hlookup entry hentry
      simp [hname] at hne
  next => simp

/-- A worker goes under a name. -/
theorem InOrder.hold (h : r.InOrder 1 0) (caller : String) :
    (r.hold caller).InOrder 0 0 := by
  have hreleased := h.release caller
  have hfresh := r.not_mem_holders_release caller
  have hstaffed := hreleased.staffed
  exact ⟨hstaffed, hreleased.inTurn,
    List.nodup_cons.mpr ⟨hfresh, hreleased.holders⟩, hreleased.callers⟩

/-- A place goes under a name. -/
theorem InOrder.wait {number : ℕ} (h : r.InOrder 0 {number})
    (caller : String) : (r.wait caller number).InOrder 0 0 := by
  have hcancelled := h.cancel caller
  have hfresh := r.not_mem_callers_cancel caller
  have hstaffed := hcancelled.staffed
  refine ⟨?_, hcancelled.inTurn, hcancelled.holders,
    List.nodup_cons.mpr ⟨hfresh, hcancelled.callers⟩⟩
  rw [Multiset.zero_add]
  rw [Multiset.singleton_add] at hstaffed
  exact hstaffed

/-! ## Steps -/

theorem InOrder.takeFree (h : r.InOrder 0 0) (hfree : 0 < r.pool.free) :
    InOrder { r with pool := r.pool.takeFree } 1 0 :=
  ⟨h.staffed.takeFree hfree, h.inTurn.takeFree, h.holders, h.callers⟩

theorem InOrder.enqueue (h : r.InOrder 0 0) (hfree : r.pool.free = 0)
    (hroom : r.pool.waiting < r.pool.queueDepth) :
    InOrder { r with pool := r.pool.enqueue } 0 {r.pool.nextNumber} := by
  have hstaffed := h.staffed.enqueue
  rw [Multiset.zero_add, ← Multiset.singleton_add] at hstaffed
  exact ⟨hstaffed, h.inTurn.enqueue hfree hroom, h.holders, h.callers⟩

theorem InOrder.take (h : r.InOrder 0 0) {caller : String} {number : ℕ}
    (hlookup : r.waiting.lookup caller = some number) {pool : WorkerPool}
    (hpoll : r.pool.poll number = (true, pool)) :
    InOrder { r with pool, waiting := r.waiting.filter (·.1 != caller) }
      1 0 := by
  have hinTurn := h.inTurn.poll number
  rw [hpoll] at hinTurn
  have hstaffed := h.staffed
  rw [h.places_of_lookup hlookup, Multiset.add_cons] at hstaffed
  exact ⟨hstaffed.poll hpoll, hinTurn, h.holders,
    nodup_map_filter h.callers _⟩

theorem InOrder.acquire (h : r.InOrder 0 0) (caller : String) :
    (r.step (.acquire caller)).2.1.InOrder 0 0 := by
  rcases r.pool.acquire_cases with ⟨hfree, hacquire⟩ | ⟨-, -, hacquire⟩ |
    ⟨hfree, hroom, hacquire⟩
  · simp only [Run.step, hacquire]
    exact (h.takeFree hfree).hold caller
  · simp only [Run.step, hacquire]
    exact h
  · simp only [Run.step, hacquire]
    exact (h.enqueue hfree hroom).wait caller

theorem InOrder.poll (h : r.InOrder 0 0) (caller : String) :
    (r.step (.poll caller)).2.1.InOrder 0 0 := by
  simp only [Run.step]
  split
  next => exact h
  next number hlookup =>
      split
      next pool hpoll =>
          obtain rfl := poll_eq_false hpoll
          exact h
      next pool hpoll => exact (h.take hlookup hpoll).hold caller

theorem InOrder.step (h : r.InOrder 0 0) (step : Step) :
    (r.step step).2.1.InOrder 0 0 := by
  cases step with
  | acquire caller => exact h.acquire caller
  | poll caller => exact h.poll caller
  | release caller => exact h.release caller
  | cancel caller => exact h.cancel caller

theorem InOrder.steps (h : r.InOrder 0 0) (steps : List Step) :
    (r.steps steps).InOrder 0 0 := by
  induction steps generalizing r with
  | nil => exact h
  | cons step steps ih => exact ih (h.step step)

/-- A holder who gives a worker back gives it to the pool. -/
theorem release_pool (r : Run) (caller : String) :
    (r.release caller).2.pool = r.pool ∨
      (r.release caller).2.pool = r.pool.release := by
  unfold Run.release
  split
  · exact Or.inr rfl
  · exact Or.inl rfl

/-- A caller who stops waiting leaves a place in the queue of the pool. -/
theorem cancel_pool (r : Run) (caller : String) :
    (r.cancel caller).2.pool = r.pool ∨
      ∃ number, (r.cancel caller).2.pool = r.pool.cancel number := by
  unfold Run.cancel
  split
  · exact Or.inl rfl
  · exact Or.inr ⟨_, rfl⟩

theorem release_pool_terms (r : Run) (caller : String) :
    (r.release caller).2.pool.terms = r.pool.terms := by
  rcases r.release_pool caller with hpool | hpool
  · rw [hpool]
  · rw [hpool, release_terms]

theorem cancel_pool_terms (r : Run) (caller : String) :
    (r.cancel caller).2.pool.terms = r.pool.terms := by
  rcases r.cancel_pool caller with hpool | ⟨number, hpool⟩
  · rw [hpool]
  · rw [hpool, cancel_terms]

theorem step_pool_terms (r : Run) (step : Step) :
    (r.step step).2.1.pool.terms = r.pool.terms := by
  cases step with
  | acquire caller =>
      have hacquire := acquire_terms r.pool
      simp only [Run.step]
      split
      next pool log heq =>
          rw [heq] at hacquire
          exact (release_pool_terms _ caller).trans hacquire
      next number pool log heq =>
          rw [heq] at hacquire
          exact (cancel_pool_terms _ caller).trans hacquire
      next pool log heq =>
          rw [heq] at hacquire
          exact hacquire
  | poll caller =>
      simp only [Run.step]
      split
      next => rfl
      next number hlookup =>
          have hpoll := poll_terms r.pool number
          split
          next pool heq =>
              rw [heq] at hpoll
              exact hpoll
          next pool heq =>
              rw [heq] at hpoll
              exact (release_pool_terms _ caller).trans hpoll
  | release caller => exact release_pool_terms r caller
  | cancel caller => exact cancel_pool_terms r caller

theorem steps_pool_terms (r : Run) (steps : List Step) :
    (r.steps steps).pool.terms = r.pool.terms := by
  induction steps generalizing r with
  | nil => rfl
  | cons step steps ih =>
      have hfirst := r.step_pool_terms step
      exact (ih _).trans hfirst

/-! ## Conservation -/

/-- The places in the queue are those at which the callers wait. -/
theorem InOrder.perm (h : r.InOrder 0 0) :
    (r.pool.queue.map (·.number)).Perm (r.waiting.map Prod.snd) := by
  have hqueued := h.staffed.queued
  rw [Multiset.zero_add] at hqueued
  exact Multiset.coe_eq_coe.mp hqueued

/-- The pool counts the waiting callers. -/
theorem InOrder.counted (h : r.InOrder 0 0) :
    r.pool.waiting = r.waiting.length := by
  have hlength := h.perm.length_eq
  rw [List.length_map, List.length_map] at hlength
  exact h.staffed.counted.trans hlength

theorem InOrder.mem_queue (h : r.InOrder 0 0) {caller : String} {number : ℕ}
    (hwaits : (caller, number) ∈ r.waiting) :
    ∃ t ∈ r.pool.queue, t.number = number := by
  have hnumber : number ∈ r.pool.queue.map (·.number) :=
    h.perm.mem_iff.mpr (List.mem_map.mpr ⟨_, hwaits, rfl⟩)
  exact List.mem_map.mp hnumber

theorem InOrder.assigned_eq (h : r.InOrder 0 0) :
    r.assigned = r.pool.queue.countP (·.assigned) := by
  calc
    r.assigned = (r.waiting.map Prod.snd).countP r.pool.isAssigned := by
      rw [List.countP_map]
      rfl
    _ = (r.pool.queue.map (·.number)).countP r.pool.isAssigned :=
      (h.perm.countP_eq _).symm
    _ = r.pool.queue.countP fun t => r.pool.isAssigned t.number := by
      rw [List.countP_map]
      rfl
    _ = r.pool.queue.countP (·.assigned) := by
      apply List.countP_congr
      intro t ht
      rw [h.staffed.isAssigned_iff ht]

/-- The workers and the callers of a run on a pool of `size` workers, for which
up to `queueDepth` callers may wait. -/
structure Conserved (r : Run) (size queueDepth : ℕ) : Prop where
  /-- Every worker is free, held under a name, or assigned to a caller. -/
  workers : r.pool.free + r.holders.length + r.assigned = size
  active : r.pool.active = r.holders.length + r.assigned
  active_le : r.pool.active ≤ size
  /-- No more workers are free than there are, so that those in use can be
  counted by a subtraction. -/
  free_le : r.pool.free ≤ r.pool.size
  /-- Each waiting caller counts against the depth of the queue, whether a worker
  has been assigned or not, and nobody else does. -/
  counted : r.pool.waiting = r.waiting.length
  counted_le : r.pool.waiting ≤ queueDepth
  /-- Nobody waits without a worker while one is free. -/
  working : 0 < r.pool.free →
    ∀ caller ∈ r.waiting, r.pool.isAssigned caller.2

theorem InOrder.conserved (h : r.InOrder 0 0) :
    r.Conserved r.pool.size r.pool.queueDepth := by
  have hworkers := h.staffed.workers
  have hactive := h.staffed.active
  rw [← h.assigned_eq] at hworkers hactive
  refine ⟨hworkers, hactive, ?_, ?_, h.counted, h.inTurn.room, ?_⟩
  · exact Nat.sub_le _ _
  · omega
  · intro hfree caller hcaller
    obtain ⟨t, ht, hnumber⟩ := h.mem_queue hcaller
    rw [← hnumber, h.staffed.isAssigned_iff ht]
    exact h.inTurn.working hfree t ht

/-- Whatever steps are taken on a pool, each of its workers stays free, held or
assigned, each place in its queue belongs to a caller who waits, and nobody
waits for a worker while one is free. -/
theorem conserved_of_steps (name : String) (size queueDepth : ℕ)
    (steps : List Step) :
    ((start (create name size queueDepth)).steps steps).Conserved
      (max 1 size) queueDepth := by
  have horder := (inOrder_start name size queueDepth).steps steps
  have hterms := (start (create name size queueDepth)).steps_pool_terms steps
  obtain ⟨hsize, hdepth⟩ := Prod.mk.inj hterms
  have hconserved := horder.conserved
  rw [hsize, hdepth] at hconserved
  exact hconserved

end Newsstand.WorkerPool.Run
