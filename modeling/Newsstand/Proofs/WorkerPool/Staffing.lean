import Mathlib.Data.Multiset.AddSub
import Newsstand.Proofs.Support.DistinctKeys
import Newsstand.WorkerPool.Basic

/-!
# The staff of a worker pool

Every worker of a pool is free, or taken by somebody, or assigned to a caller
in the queue who has not looked yet.  Who has taken workers and who stands in
the queue is known outside of the pool only: to the pool, a taken worker is one
that is missing, and a caller is a number.  `Staffed` says that a pool agrees
with what is known outside, and every operation of a pool preserves this.
-/

namespace Newsstand.WorkerPool

/-- The pool agrees that `busy` workers are taken, and that it is the callers of
the given places who stand in the queue and are counted. -/
structure Staffed (p : WorkerPool) (busy : ℕ) (places : Multiset ℕ) :
    Prop where
  workers : p.free + busy + p.queue.countP (·.assigned) = p.size
  counted : p.waiting = p.queue.length
  queued : ↑(p.queue.map (·.number)) = places
  distinct : (p.queue.map (·.number)).Nodup
  issued : ∀ t ∈ p.queue, t.number < p.nextNumber

variable {p : WorkerPool} {busy : ℕ} {places : Multiset ℕ}

theorem staffed_create (name : String) (size queueDepth : ℕ) :
    (create name size queueDepth).Staffed 0 0 :=
  ⟨rfl, rfl, rfl, List.nodup_nil, by simp [create]⟩

theorem Staffed.active (h : p.Staffed busy places) :
    p.active = busy + p.queue.countP (·.assigned) := by
  have hworkers := h.workers
  simp only [WorkerPool.active]
  omega

/-- Where nobody waits, the queue is empty. -/
theorem Staffed.queue_eq_nil (h : p.Staffed busy 0) : p.queue = [] := by
  have hqueued := h.queued
  rw [Multiset.coe_eq_zero] at hqueued
  exact List.map_eq_nil_iff.mp hqueued

/-! ## Asking for a worker -/

/-- The pool after a free worker is taken. -/
def takeFree (p : WorkerPool) : WorkerPool :=
  { p with free := p.free - 1 }

/-- The pool with one more caller at the end of its queue. -/
def enqueue (p : WorkerPool) : WorkerPool :=
  { p with
    waiting := p.waiting + 1
    queue := p.queue ++ [⟨p.nextNumber, false⟩]
    nextNumber := p.nextNumber + 1 }

theorem acquire_of_free {p : WorkerPool} (hfree : 0 < p.free) :
    p.acquire = (.worker, p.takeFree, []) := by
  simp only [acquire, if_pos hfree, takeFree]

/-- Who is not counted any more leaves the count as it was. -/
theorem discount_count (p : WorkerPool) : p.count.discount = p := by
  rw [count, discount, Nat.add_sub_cancel]

theorem acquire_of_full {p : WorkerPool} (hfree : p.free = 0)
    (hfull : p.queueDepth ≤ p.waiting) :
    p.acquire = (.refused, p, [p.reportFull]) := by
  have hmany : p.queueDepth < p.count.waiting := Nat.lt_succ_of_le hfull
  simp only [acquire, if_neg (Nat.not_lt.mpr hfree.le), if_pos hmany,
    discount_count]

theorem acquire_of_room {p : WorkerPool} (hfree : p.free = 0)
    (hroom : p.waiting < p.queueDepth) :
    p.acquire = (.place p.nextNumber, p.enqueue, []) := by
  have hfew : ¬p.queueDepth < p.count.waiting :=
    Nat.not_lt.mpr (Nat.succ_le_of_lt hroom)
  simp only [acquire, if_neg (Nat.not_lt.mpr hfree.le), if_neg hfew]
  rfl

/-- A free worker is handed out at once.  If there is none, it depends on the
number of those who wait already whether the caller may wait. -/
theorem acquire_cases (p : WorkerPool) :
    (0 < p.free ∧ p.acquire = (.worker, p.takeFree, [])) ∨
    (p.free = 0 ∧ p.queueDepth ≤ p.waiting ∧
      p.acquire = (.refused, p, [p.reportFull])) ∨
    (p.free = 0 ∧ p.waiting < p.queueDepth ∧
      p.acquire = (.place p.nextNumber, p.enqueue, [])) := by
  rcases Nat.eq_zero_or_pos p.free with hnone | hfree
  · rcases Nat.lt_or_ge p.waiting p.queueDepth with hroom | hfull
    · exact Or.inr (Or.inr ⟨hnone, hroom, acquire_of_room hnone hroom⟩)
    · exact Or.inr (Or.inl ⟨hnone, hfull, acquire_of_full hnone hfull⟩)
  · exact Or.inl ⟨hfree, acquire_of_free hfree⟩

theorem Staffed.takeFree (h : p.Staffed busy places) (hfree : 0 < p.free) :
    p.takeFree.Staffed (busy + 1) places := by
  refine ⟨?_, h.counted, h.queued, h.distinct, h.issued⟩
  have hworkers := h.workers
  simp only [WorkerPool.takeFree]
  omega

/-- The number of the next caller is new. -/
theorem Staffed.nextNumber_not_mem (h : p.Staffed busy places) :
    p.nextNumber ∉ p.queue.map (·.number) := by
  intro hmem
  obtain ⟨t, ht, hnumber⟩ := List.mem_map.mp hmem
  have hlt := h.issued t ht
  omega

theorem Staffed.enqueue (h : p.Staffed busy places) :
    p.enqueue.Staffed busy (p.nextNumber ::ₘ places) where
  workers := by
    simpa [WorkerPool.enqueue] using h.workers
  counted := by
    simpa [WorkerPool.enqueue] using h.counted
  queued := by
    rw [← h.queued]
    simp [WorkerPool.enqueue]
  distinct := by
    simpa [WorkerPool.enqueue, List.nodup_append] using
      ⟨h.distinct, fun t ht hnumber =>
        h.nextNumber_not_mem (List.mem_map.mpr ⟨t, ht, hnumber⟩)⟩
  issued := by
    intro t ht
    rcases List.mem_append.mp ht with ht | ht
    · exact Nat.lt_succ_of_lt (h.issued t ht)
    · obtain rfl := List.mem_singleton.mp ht
      exact Nat.lt_succ_self _

/-! ## Giving a worker back -/

/-- An assigned worker changes nobody's place in the queue. -/
theorem assignFirst_eq_some {queue assigned : List Ticket}
    (h : assignFirst queue = some assigned) :
    assigned.map (·.number) = queue.map (·.number) ∧
      assigned.countP (·.assigned) = queue.countP (·.assigned) + 1 := by
  induction queue generalizing assigned with
  | nil => cases h
  | cons t queue ih =>
      simp only [assignFirst] at h
      by_cases ht : t.assigned
      · rw [if_pos ht] at h
        obtain ⟨rest, hrest, rfl⟩ := Option.map_eq_some_iff.mp h
        obtain ⟨hnumbers, hcount⟩ := ih hrest
        simp [hnumbers, hcount, ht]
      · rw [if_neg ht] at h
        cases h
        simp [ht]

theorem Staffed.release (h : p.Staffed (busy + 1) places) :
    p.release.Staffed busy places := by
  have hworkers := h.workers
  unfold WorkerPool.release
  split
  next queue hassign =>
      obtain ⟨hnumbers, hcount⟩ := assignFirst_eq_some hassign
      have hlength := congrArg List.length hnumbers
      rw [List.length_map, List.length_map] at hlength
      refine ⟨?_, h.counted.trans hlength.symm, ?_, ?_, ?_⟩
      · simp only [hcount]
        omega
      · simpa only [hnumbers] using h.queued
      · simpa only [hnumbers] using h.distinct
      · intro t ht
        have hmem : t.number ∈ p.queue.map (·.number) :=
          hnumbers ▸ List.mem_map_of_mem ht
        obtain ⟨old, hold, hnumber⟩ := List.mem_map.mp hmem
        exact hnumber ▸ h.issued old hold
  next =>
      refine ⟨?_, h.counted, h.queued, h.distinct, h.issued⟩
      simp only
      omega

/-! ## Leaving the queue -/

/-- The queue is the ticket of a caller and the tickets that are left when this
caller goes. -/
theorem Staffed.perm_leave (h : p.Staffed busy places) {t : Ticket}
    (ht : t ∈ p.queue) :
    p.queue.Perm (t :: (p.leave t.number).queue) :=
  perm_cons_filter_key h.distinct ht

theorem Staffed.isAssigned_iff (h : p.Staffed busy places) {t : Ticket}
    (ht : t ∈ p.queue) : p.isAssigned t.number = t.assigned := by
  rw [Bool.eq_iff_iff]
  simp only [isAssigned, List.any_eq_true, Bool.and_eq_true, beq_iff_eq]
  constructor
  · rintro ⟨other, hother, hnumber, hassigned⟩
    rwa [← List.inj_on_of_nodup_map h.distinct hother ht hnumber]
  · exact fun hassigned => ⟨t, ht, rfl, hassigned⟩

/-- A caller who leaves takes along the worker that was assigned, if any. -/
theorem Staffed.leave {number : ℕ}
    (h : p.Staffed busy (number ::ₘ places)) :
    (p.leave number).Staffed
      (busy + if p.isAssigned number then 1 else 0) places := by
  have hmem : number ∈ p.queue.map (·.number) := by
    rw [← Multiset.mem_coe, h.queued]
    exact Multiset.mem_cons_self _ _
  obtain ⟨t, ht, rfl⟩ := List.mem_map.mp hmem
  have hperm := h.perm_leave ht
  refine ⟨?_, ?_, ?_, ?_, ?_⟩
  · have hworkers := h.workers
    rw [hperm.countP_eq, List.countP_cons] at hworkers
    rw [h.isAssigned_iff ht]
    simp only [WorkerPool.leave] at hworkers ⊢
    omega
  · have hcounted := h.counted
    rw [hperm.length_eq, List.length_cons] at hcounted
    exact Nat.sub_eq_of_eq_add hcounted
  · have hqueued := h.queued
    rw [Multiset.coe_eq_coe.mpr (hperm.map _), List.map_cons,
      ← Multiset.cons_coe] at hqueued
    exact (Multiset.cons_inj_right _).mp hqueued
  · exact nodup_map_filter h.distinct _
  · exact fun other hother => h.issued other (List.mem_filter.mp hother).1

theorem Staffed.poll {number : ℕ} {q : WorkerPool}
    (h : p.Staffed busy (number ::ₘ places))
    (hpoll : p.poll number = (true, q)) : q.Staffed (busy + 1) places := by
  unfold WorkerPool.poll at hpoll
  split at hpoll
  next hassigned =>
      cases hpoll
      simpa only [hassigned, if_true] using h.leave
  next => cases hpoll

theorem Staffed.cancel {number : ℕ}
    (h : p.Staffed busy (number ::ₘ places)) :
    (p.cancel number).Staffed busy places := by
  unfold WorkerPool.cancel
  have hleave := h.leave
  split
  next hassigned =>
      rw [if_pos hassigned] at hleave
      exact hleave.release
  next hassigned =>
      rwa [if_neg hassigned] at hleave

end Newsstand.WorkerPool
