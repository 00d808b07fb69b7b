import Newsstand.Proofs.WorkerPool.Staffing

/-!
# Taking turns

A worker that is given back goes to whoever has waited longest, but a free
worker is handed out without a look at the queue.  That nobody is overtaken
rests on one fact about the pool: while a worker is free, nobody waits for one.
`InTurn` says this together with the order of the queue.  Every operation of a
pool preserves it, whoever may have taken the workers.
-/

namespace Newsstand.WorkerPool

/-- What never changes about a pool: the number of its workers and of the
callers who may wait. -/
def terms (p : WorkerPool) : ℕ × ℕ :=
  (p.size, p.queueDepth)

/-- One caller came before another one and is served before this one is. -/
def Precedes (t u : Ticket) : Prop :=
  t.number < u.number ∧ (u.assigned → t.assigned)

/-- The queue is served in the order in which it was joined, nobody in it waits
for a worker while there is a free one, and no more wait than may. -/
structure InTurn (p : WorkerPool) : Prop where
  ordered : p.queue.Pairwise Precedes
  issued : ∀ t ∈ p.queue, t.number < p.nextNumber
  working : 0 < p.free → ∀ t ∈ p.queue, t.assigned
  room : p.waiting ≤ p.queueDepth

variable {p : WorkerPool}

theorem inTurn_create (name : String) (size queueDepth : ℕ) :
    (create name size queueDepth).InTurn :=
  ⟨List.Pairwise.nil, by simp [create], by simp [create],
    Nat.zero_le _⟩

/-- Whoever came before someone who has been assigned a worker has been assigned
one too. -/
theorem InTurn.assigned_of_lt (h : p.InTurn) {t u : Ticket} (ht : t ∈ p.queue)
    (hu : u ∈ p.queue) (hlt : t.number < u.number) (hassigned : u.assigned) :
    t.assigned := by
  -- Of two tickets the list tells only in which order they stand.
  let Fair : Ticket → Ticket → Prop := fun t u =>
    t.number < u.number → u.assigned → t.assigned
  have hforth : p.queue.Pairwise Fair :=
    h.ordered.imp fun hab _ hb => hab.2 hb
  have hback : p.queue.Pairwise (flip Fair) := by
    apply h.ordered.imp
    intro a b hab hba
    have hlt := hab.1
    omega
  have hall := hforth.forall_of_forall_of_flip (fun _ _ _ ha => ha) hback
  exact hall ht hu hlt hassigned

/-! ## Asking for a worker -/

theorem takeFree_terms (p : WorkerPool) : p.takeFree.terms = p.terms := rfl

theorem enqueue_terms (p : WorkerPool) : p.enqueue.terms = p.terms := rfl

theorem acquire_terms (p : WorkerPool) : p.acquire.2.1.terms = p.terms := by
  rcases p.acquire_cases with ⟨-, h⟩ | ⟨-, -, h⟩ | ⟨-, -, h⟩
  · rw [h]
    exact takeFree_terms p
  · rw [h]
  · rw [h]
    exact enqueue_terms p

theorem InTurn.takeFree (h : p.InTurn) : p.takeFree.InTurn := by
  refine ⟨h.ordered, h.issued, ?_, h.room⟩
  intro hfree
  exact h.working (Nat.lt_of_lt_of_le hfree (Nat.sub_le _ _))

/-- Who joins the queue while no worker is free comes last. -/
theorem InTurn.enqueue (h : p.InTurn) (hfree : p.free = 0)
    (hroom : p.waiting < p.queueDepth) : p.enqueue.InTurn := by
  constructor
  · apply List.pairwise_append.mpr
    refine ⟨h.ordered, List.pairwise_singleton _ _, ?_⟩
    intro t ht u hu
    obtain rfl := List.mem_singleton.mp hu
    exact ⟨h.issued t ht, fun hassigned => Bool.noConfusion hassigned⟩
  · intro t ht
    rcases List.mem_append.mp ht with ht | ht
    · exact Nat.lt_succ_of_lt (h.issued t ht)
    · obtain rfl := List.mem_singleton.mp ht
      exact Nat.lt_succ_self _
  · intro hpos
    have hnone : p.enqueue.free = 0 := hfree
    omega
  · exact hroom

theorem InTurn.acquire (h : p.InTurn) : p.acquire.2.1.InTurn := by
  rcases p.acquire_cases with ⟨-, hacquire⟩ | ⟨-, -, hacquire⟩ |
    ⟨hfree, hroom, hacquire⟩
  · rw [hacquire]
    exact h.takeFree
  · rw [hacquire]
    exact h
  · rw [hacquire]
    exact h.enqueue hfree hroom

/-- While someone in the queue has no worker, nobody else gets one at once. -/
theorem InTurn.acquire_ne_worker (h : p.InTurn) {t : Ticket}
    (ht : t ∈ p.queue) (hwaits : ¬t.assigned) : p.acquire.1 ≠ .worker := by
  rcases p.acquire_cases with ⟨hfree, -⟩ | ⟨-, -, hacquire⟩ | ⟨-, -, hacquire⟩
  · exact absurd (h.working hfree t ht) hwaits
  · rw [hacquire]
    exact Grant.noConfusion
  · rw [hacquire]
    exact Grant.noConfusion

/-! ## Giving a worker back -/

/-- A worker goes to the first one in the queue who has none, or to nobody if
all of them have one. -/
theorem assignFirst_cases (queue : List Ticket) :
    (assignFirst queue = none ∧ ∀ t ∈ queue, t.assigned) ∨
    ∃ front t back, queue = front ++ t :: back ∧
      (∀ u ∈ front, u.assigned) ∧ ¬t.assigned ∧
      assignFirst queue = some (front ++ { t with assigned := true } :: back) := by
  induction queue with
  | nil => exact Or.inl ⟨rfl, by simp⟩
  | cons first queue ih =>
      by_cases hfirst : first.assigned
      · rcases ih with ⟨hnone, hall⟩ |
          ⟨front, t, back, rfl, hfront, ht, hsome⟩
        · left
          constructor
          · rw [assignFirst, if_pos hfirst, hnone, Option.map_none]
          · exact List.forall_mem_cons.mpr ⟨hfirst, hall⟩
        · right
          refine ⟨first :: front, t, back, rfl, ?_, ht, ?_⟩
          · exact List.forall_mem_cons.mpr ⟨hfirst, hfront⟩
          · rw [assignFirst, if_pos hfirst, hsome, Option.map_some,
              List.cons_append]
      · right
        refine ⟨[], first, queue, rfl, by simp, hfirst, ?_⟩
        rw [assignFirst, if_neg hfirst, List.nil_append]

theorem release_terms (p : WorkerPool) : p.release.terms = p.terms := by
  unfold release
  split <;> rfl

theorem InTurn.release (h : p.InTurn) : p.release.InTurn := by
  unfold WorkerPool.release
  rcases assignFirst_cases p.queue with ⟨hnone, hall⟩ |
    ⟨front, t, back, hqueue, hfront, ht, hsome⟩
  · rw [hnone]
    exact ⟨h.ordered, h.issued, fun _ => hall, h.room⟩
  · rw [hsome]
    have hordered := h.ordered
    have hissued := h.issued
    rw [hqueue] at hordered hissued
    rw [List.pairwise_append, List.pairwise_cons] at hordered
    obtain ⟨hordered_front, ⟨hafter, hordered_back⟩, hbefore⟩ := hordered
    refine ⟨?_, ?_, ?_, h.room⟩
    · apply List.pairwise_append.mpr
      refine ⟨hordered_front, List.pairwise_cons.mpr ⟨?_, hordered_back⟩, ?_⟩
      · intro u hu
        exact ⟨(hafter u hu).1, fun _ => rfl⟩
      · intro u hu v hv
        refine ⟨?_, fun _ => hfront u hu⟩
        rcases List.mem_cons.mp hv with rfl | hv
        · exact (hbefore u hu t List.mem_cons_self).1
        · exact (hbefore u hu v (List.mem_cons_of_mem _ hv)).1
    · intro u hu
      rcases List.mem_append.mp hu with hu | hu
      · exact hissued u (List.mem_append_left _ hu)
      · rcases List.mem_cons.mp hu with rfl | hu
        · exact hissued t (List.mem_append_right _ List.mem_cons_self)
        · exact hissued u
            (List.mem_append_right _ (List.mem_cons_of_mem _ hu))
    · -- Somebody was waiting, so that no worker can have been free.
      intro hfree
      exact absurd (h.working hfree t (by simp [hqueue])) ht

/-! ## Leaving the queue -/

theorem leave_terms (p : WorkerPool) (number : ℕ) :
    (p.leave number).terms = p.terms := rfl

theorem InTurn.leave (h : p.InTurn) (number : ℕ) : (p.leave number).InTurn := by
  constructor
  · exact h.ordered.sublist List.filter_sublist
  · intro t ht
    exact h.issued t (List.mem_of_mem_filter ht)
  · intro hfree t ht
    exact h.working hfree t (List.mem_of_mem_filter ht)
  · exact (Nat.sub_le _ _).trans h.room

/-- Who has been assigned no worker finds the pool as it was. -/
theorem poll_eq_false {number : ℕ} {q : WorkerPool}
    (h : p.poll number = (false, q)) : q = p := by
  unfold poll at h
  split at h
  · cases h
  · exact (Prod.mk.inj h).2.symm

theorem poll_terms (p : WorkerPool) (number : ℕ) :
    (p.poll number).2.terms = p.terms := by
  unfold poll
  split <;> rfl

theorem InTurn.poll (h : p.InTurn) (number : ℕ) :
    (p.poll number).2.InTurn := by
  unfold WorkerPool.poll
  split
  · exact h.leave number
  · exact h

theorem cancel_terms (p : WorkerPool) (number : ℕ) :
    (p.cancel number).terms = p.terms := by
  unfold cancel
  split
  · rw [release_terms, leave_terms]
  · exact leave_terms p number

theorem InTurn.cancel (h : p.InTurn) (number : ℕ) :
    (p.cancel number).InTurn := by
  unfold WorkerPool.cancel
  split
  · exact (h.leave number).release
  · exact h.leave number

/-! ## Workers on their way -/

/-- The places to which a worker has come that was not taken yet. -/
def assignedNumbers (p : WorkerPool) : List ℕ :=
  (p.queue.filter (·.assigned)).map (·.number)

/-- The place to which the next worker goes. -/
def nextInLine? (p : WorkerPool) : Option ℕ :=
  (p.queue.find? fun t => !t.assigned).map (·.number)

theorem length_assignedNumbers (p : WorkerPool) :
    p.assignedNumbers.length = p.queue.countP (·.assigned) := by
  rw [assignedNumbers, List.length_map, List.countP_eq_length_filter]

theorem assignedNumbers_acquire (p : WorkerPool) :
    p.acquire.2.1.assignedNumbers = p.assignedNumbers := by
  rcases p.acquire_cases with ⟨-, h⟩ | ⟨-, -, h⟩ | ⟨-, -, h⟩
  · rw [h]
    rfl
  · rw [h]
  · simp [h, assignedNumbers, enqueue]

theorem assignedNumbers_leave (p : WorkerPool) (number : ℕ) :
    (p.leave number).assignedNumbers =
      p.assignedNumbers.filter (· != number) := by
  simp only [assignedNumbers, leave, List.filter_map, List.filter_filter,
    Function.comp_def, Bool.and_comm]

theorem assignedNumbers_poll (p : WorkerPool) (number : ℕ) :
    (p.poll number).2.assignedNumbers =
      p.assignedNumbers.filter (· != number) := by
  unfold poll
  split
  next => exact p.assignedNumbers_leave number
  next hassigned =>
      symm
      rw [List.filter_eq_self]
      intro other hother
      obtain ⟨t, ht, rfl⟩ := List.mem_map.mp hother
      rw [bne_iff_ne]
      rintro rfl
      apply hassigned
      rw [isAssigned, List.any_eq_true]
      exact ⟨t, List.mem_of_mem_filter ht,
        by simpa using (List.mem_filter.mp ht).2⟩

/-- A worker that is given back goes to the next place in line. -/
theorem InTurn.assignedNumbers_release (h : p.InTurn) :
    p.release.assignedNumbers =
      p.assignedNumbers ++ p.nextInLine?.toList := by
  unfold WorkerPool.release
  rcases assignFirst_cases p.queue with ⟨hnone, hall⟩ |
    ⟨front, t, back, hqueue, hfront, ht, hsome⟩
  · have hnext : p.nextInLine? = none := by
      simpa [nextInLine?] using hall
    rw [hnone, hnext, Option.toList_none, List.append_nil]
    rfl
  · have hordered := h.ordered
    rw [hqueue, List.pairwise_append, List.pairwise_cons] at hordered
    -- Behind a place without a worker there is none with one.
    have hback : back.filter (·.assigned) = [] := by
      rw [List.filter_eq_nil_iff]
      intro u hu hassigned
      exact ht ((hordered.2.1.1 u hu).2 hassigned)
    have hnext : p.nextInLine? = some t.number := by
      rw [nextInLine?, hqueue, List.find?_append,
        List.find?_eq_none.mpr (by simpa using hfront)]
      simp [ht]
    rw [hsome, hnext]
    simp [assignedNumbers, hqueue, hback, ht]

end Newsstand.WorkerPool
