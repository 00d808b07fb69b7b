import Mathlib.Logic.Function.Iterate
import Newsstand.Proofs.WorkerPool.Turn

/-!
# Waiting for a worker

A caller who gets in line waits until all the others in it have a worker, and
for one worker more.  A pool with the caller is therefore compared with the same
pool without.  While somebody else still waits for a worker, the two assign the
ones that are given back alike; the next one goes to the caller, and from then
on the pool lacks just this worker, until it is given back as well.  What is
left of the visit in the end is the number that was given out.
-/

namespace Newsstand.WorkerPool

variable {p : WorkerPool} {k : ℕ}

/-- The number of callers in the queue to whom no worker has been assigned. -/
def unserved (p : WorkerPool) : ℕ :=
  p.queue.countP fun t => !t.assigned

/-- The pool with one more caller in the queue, to whom a free worker has been
assigned. -/
def serve (p : WorkerPool) : WorkerPool :=
  { p with
    free := p.free - 1
    waiting := p.waiting + 1
    queue := p.queue ++ [⟨p.nextNumber, true⟩]
    nextNumber := p.nextNumber + 1 }

/-- The pool after it has given out a number. -/
def issue (p : WorkerPool) : WorkerPool :=
  { p with nextNumber := p.nextNumber + 1 }

theorem unserved_eq_zero_iff :
    p.unserved = 0 ↔ ∀ t ∈ p.queue, t.assigned := by
  simp [unserved, List.countP_eq_zero]

theorem InTurn.unserved_of_free (h : p.InTurn) (hfree : 0 < p.free) :
    p.unserved = 0 :=
  unserved_eq_zero_iff.mpr (h.working hfree)

/-! ## Giving workers back -/

theorem assignFirst_append_of_some {queue assigned : List Ticket}
    (h : assignFirst queue = some assigned) (rest : List Ticket) :
    assignFirst (queue ++ rest) = some (assigned ++ rest) := by
  induction queue generalizing assigned with
  | nil => cases h
  | cons t queue ih =>
      rw [List.cons_append]
      by_cases ht : t.assigned
      · rw [assignFirst, if_pos ht] at h ⊢
        obtain ⟨later, hlater, rfl⟩ := Option.map_eq_some_iff.mp h
        rw [ih hlater]
        rfl
      · rw [assignFirst, if_neg ht] at h ⊢
        cases h
        rfl

theorem assignFirst_append_of_assigned {queue : List Ticket}
    (h : ∀ t ∈ queue, t.assigned) (rest : List Ticket) :
    assignFirst (queue ++ rest) = (assignFirst rest).map (queue ++ ·) := by
  induction queue with
  | nil => simp
  | cons t queue ih =>
      rw [List.forall_mem_cons] at h
      rw [List.cons_append, assignFirst, if_pos h.1, ih h.2, Option.map_map]
      rfl

theorem assignFirst_of_assigned {queue : List Ticket}
    (h : ∀ t ∈ queue, t.assigned) : assignFirst queue = none := by
  have happend := assignFirst_append_of_assigned h []
  rwa [List.append_nil] at happend

/-- A worker that is given back is free if nobody waits for one. -/
theorem release_of_served (h : p.unserved = 0) :
    p.release = { p with free := p.free + 1 } := by
  unfold release
  rw [assignFirst_of_assigned (unserved_eq_zero_iff.mp h)]

/-- A worker that is given back goes to one of those who wait for it, and those
who come later have no say in that. -/
theorem release_of_unserved (h : 0 < p.unserved) :
    p.release.free = p.free ∧ p.release.unserved + 1 = p.unserved ∧
      p.enqueue.release = p.release.enqueue := by
  rcases assignFirst_cases p.queue with ⟨-, hall⟩ |
    ⟨front, t, back, hqueue, hfront, ht, hsome⟩
  · rw [unserved_eq_zero_iff.mpr hall] at h
    cases h
  · have hrelease : p.release =
        { p with queue := front ++ { t with assigned := true } :: back } := by
      unfold release
      rw [hsome]
    have henqueue := assignFirst_append_of_some hsome [⟨p.nextNumber, false⟩]
    refine ⟨by rw [hrelease], ?_, ?_⟩
    · rw [hrelease]
      simp only [unserved, hqueue, List.countP_append, List.countP_cons]
      simp [ht, Nat.add_assoc]
    · rw [hrelease]
      simp only [release, enqueue, henqueue]

/-- Where nobody else waits for a worker, the next one goes to the caller. -/
theorem release_enqueue_of_served (h : p.unserved = 0) (hfree : p.free = 0) :
    p.enqueue.release = p.release.serve := by
  have hqueue := assignFirst_append_of_assigned
    (unserved_eq_zero_iff.mp h) [⟨p.nextNumber, false⟩]
  have hlast : assignFirst [⟨p.nextNumber, false⟩] =
      some [⟨p.nextNumber, true⟩] := rfl
  rw [hlast, Option.map_some] at hqueue
  rw [release_of_served h]
  simp only [release, enqueue, hqueue, serve, hfree]

/-- Once the caller has been assigned a worker, all others are free. -/
theorem release_serve (h : p.unserved = 0) (hfree : 0 < p.free) :
    p.serve.release = p.release.serve := by
  have hserved : p.serve.unserved = 0 := by
    simpa [unserved, serve] using h
  rw [release_of_served hserved, release_of_served h]
  simp only [serve]
  congr 1
  omega

theorem release_takeFree (h : p.unserved = 0) (hfree : 0 < p.free) :
    p.takeFree.release = p.release.takeFree := by
  have hserved : p.takeFree.unserved = 0 := h
  rw [release_of_served hserved, release_of_served h]
  simp only [takeFree]
  congr 1
  omega

/-- A free worker that was taken and is given back is free again. -/
theorem release_takeFree_eq_self (h : p.unserved = 0) (hfree : 0 < p.free) :
    p.takeFree.release = p := by
  rw [release_takeFree h hfree, release_of_served h]
  rfl

theorem release_issue (p : WorkerPool) : p.issue.release = p.release.issue := by
  have hqueue : p.issue.queue = p.queue := rfl
  unfold release
  rw [hqueue]
  split <;> rfl

/-! ## Giving several workers back -/

/-- While nobody waits for a worker, workers that are given back are free. -/
theorem iterate_release_served (h : p.unserved = 0) (k : ℕ) :
    (release^[k] p).unserved = 0 ∧ (release^[k] p).free = p.free + k := by
  induction k with
  | zero => exact ⟨h, rfl⟩
  | succ k ih =>
      obtain ⟨hserved, hfree⟩ := ih
      rw [Function.iterate_succ_apply', release_of_served hserved]
      refine ⟨hserved, ?_⟩
      simp only [hfree]
      rfl

/-- As long as no more workers are given back than others wait for, the caller
is still waiting. -/
theorem iterate_release_enqueue (hk : k ≤ p.unserved) :
    release^[k] p.enqueue = (release^[k] p).enqueue ∧
      (release^[k] p).unserved + k = p.unserved ∧
      (release^[k] p).free = p.free := by
  induction k with
  | zero => exact ⟨rfl, rfl, rfl⟩
  | succ k ih =>
      obtain ⟨hsame, hserved, hfree⟩ := ih (Nat.le_of_succ_le hk)
      have hrelease := release_of_unserved (p := release^[k] p) (by omega)
      simp only [Function.iterate_succ_apply']
      rw [hsame]
      exact ⟨hrelease.2.2, by omega, hrelease.1.trans hfree⟩

theorem iterate_release_serve (h : p.unserved = 0) (hfree : 0 < p.free)
    (k : ℕ) : release^[k] p.serve = (release^[k] p).serve := by
  induction k with
  | zero => rfl
  | succ k ih =>
      obtain ⟨hserved, hmore⟩ := iterate_release_served h k
      simp only [Function.iterate_succ_apply']
      rw [ih, release_serve hserved (by omega)]

theorem iterate_release_takeFree (h : p.unserved = 0) (hfree : 0 < p.free)
    (k : ℕ) : release^[k] p.takeFree = (release^[k] p).takeFree := by
  induction k with
  | zero => rfl
  | succ k ih =>
      obtain ⟨hserved, hmore⟩ := iterate_release_served h k
      simp only [Function.iterate_succ_apply']
      rw [ih, release_takeFree hserved (by omega)]

/-- A worker that was taken and is given back in the end is not missed. -/
theorem release_iterate_takeFree (h : p.unserved = 0) (hfree : 0 < p.free)
    (k : ℕ) : (release^[k] p.takeFree).release = release^[k] p := by
  obtain ⟨hserved, hmore⟩ := iterate_release_served h k
  rw [iterate_release_takeFree h hfree]
  exact release_takeFree_eq_self hserved (by omega)

theorem iterate_release_issue (p : WorkerPool) (k : ℕ) :
    release^[k] p.issue = (release^[k] p).issue := by
  induction k with
  | zero => rfl
  | succ k ih =>
      simp only [Function.iterate_succ_apply']
      rw [ih, release_issue]

/-- When one worker more is given back than others wait for, it goes to the
caller, and whatever is given back after that is free. -/
theorem iterate_release_enqueue_of_lt (hfree : p.free = 0)
    (hk : p.unserved < k) :
    release^[k] p.enqueue = (release^[k] p).serve ∧
      (release^[k] p).unserved = 0 ∧ 0 < (release^[k] p).free := by
  obtain ⟨more, rfl⟩ : ∃ more, k = more + (p.unserved + 1) :=
    ⟨k - (p.unserved + 1), by omega⟩
  obtain ⟨hsame, hserved, hnone⟩ := iterate_release_enqueue (p := p) le_rfl
  have hlast : (release^[p.unserved] p).unserved = 0 := by omega
  have hturn : release^[p.unserved + 1] p.enqueue =
      (release^[p.unserved + 1] p).serve := by
    simp only [Function.iterate_succ_apply']
    rw [hsame, release_enqueue_of_served hlast (hnone.trans hfree)]
  obtain ⟨hserved', hfree'⟩ := iterate_release_served hlast 1
  rw [← Function.iterate_add_apply, Nat.add_comm 1] at hserved' hfree'
  obtain ⟨hdone, hmore⟩ := iterate_release_served hserved' more
  have hsplit (q : WorkerPool) : release^[more + (p.unserved + 1)] q =
      release^[more] (release^[p.unserved + 1] q) :=
    Function.iterate_add_apply _ _ _ _
  rw [hsplit, hsplit, hturn]
  exact ⟨iterate_release_serve hserved' (by omega) more, hdone, by omega⟩

theorem InTurn.iterate_release (h : p.InTurn) (k : ℕ) :
    (WorkerPool.release^[k] p).InTurn := by
  induction k with
  | zero => exact h
  | succ k ih =>
      rw [Function.iterate_succ_apply']
      exact ih.release

/-! ## Looking for the worker -/

theorem iterate_release_nextNumber (p : WorkerPool) (k : ℕ) :
    (release^[k] p).nextNumber = p.nextNumber := by
  induction k with
  | zero => rfl
  | succ k ih =>
      rw [Function.iterate_succ_apply', ← ih]
      unfold release
      split <;> rfl

/-- To the last caller in the queue no worker has been assigned yet. -/
theorem InTurn.poll_enqueue (h : p.InTurn) :
    p.enqueue.poll p.nextNumber = (false, p.enqueue) := by
  have hnone : ¬p.enqueue.isAssigned p.nextNumber := by
    rw [isAssigned, List.any_eq_true]
    rintro ⟨t, ht, hassigned⟩
    rw [Bool.and_eq_true, beq_iff_eq] at hassigned
    rcases List.mem_append.mp ht with ht | ht
    · have hlt := h.issued t ht
      omega
    · obtain rfl := List.mem_singleton.mp ht
      exact Bool.noConfusion hassigned.2
  simp only [WorkerPool.poll, if_neg hnone]

/-- The caller takes the worker, which was free without the caller. -/
theorem InTurn.poll_serve (h : p.InTurn) :
    p.serve.poll p.nextNumber = (true, p.issue.takeFree) := by
  have hassigned : p.serve.isAssigned p.nextNumber := by
    simp [isAssigned, serve]
  have hothers :
      p.serve.queue.filter (·.number != p.nextNumber) = p.queue := by
    simp only [serve, List.filter_append]
    rw [List.filter_eq_self.mpr fun t ht => by
      simpa using Nat.ne_of_lt (h.issued t ht)]
    simp
  simp only [WorkerPool.poll, if_pos hassigned, WorkerPool.leave, hothers]
  rfl

end Newsstand.WorkerPool
