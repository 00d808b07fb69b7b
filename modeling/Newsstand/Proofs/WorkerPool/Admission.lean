import Newsstand.Proofs.WorkerPool.Fairness

/-!
# Who is let in

A caller is counted before the pool looks whether that makes too many, and those
who have been assigned a worker count until they take it.  Nonetheless a caller
is turned away exactly if no worker is free and as many callers wait as may, and
nothing shows this afterwards.  Whoever has been let in stays in line until a
worker comes or the place is given up.
-/

namespace Newsstand.WorkerPool.Run

variable {r : Run} {caller : String}

/-! ## Asking for a worker -/

/-- What a caller is told who asks for a worker. -/
theorem step_acquire_cases (r : Run) (caller : String) :
    (0 < r.pool.free ∧ (r.step (.acquire caller)).1 = .acquired) ∨
    (r.pool.free = 0 ∧ r.pool.queueDepth ≤ r.pool.waiting ∧
      r.step (.acquire caller) = (.refused, r, [r.pool.reportFull])) ∨
    (r.pool.free = 0 ∧ r.pool.waiting < r.pool.queueDepth ∧
      (r.step (.acquire caller)).1 = .waiting) := by
  rcases r.pool.acquire_cases with ⟨hfree, hacquire⟩ | ⟨hfree, hfull, hacquire⟩ |
    ⟨hfree, hroom, hacquire⟩
  · exact Or.inl ⟨hfree, by simp only [Run.step, hacquire]⟩
  · exact Or.inr (Or.inl ⟨hfree, hfull, by simp only [Run.step, hacquire]⟩)
  · exact Or.inr (Or.inr ⟨hfree, hroom, by simp only [Run.step, hacquire]⟩)

/-! ## Staying in line -/

theorem lookup_cancel_of_ne {other : String} (h : caller ≠ other) (r : Run) :
    (r.cancel other).2.waiting.lookup caller = r.waiting.lookup caller := by
  unfold Run.cancel
  split
  · rfl
  · exact lookup_filter_ne r.waiting h

theorem lookup_wait_of_ne {other : String} (h : caller ≠ other) (r : Run)
    (number : ℕ) :
    (r.wait other number).waiting.lookup caller = r.waiting.lookup caller := by
  rw [Run.wait, List.lookup_cons, beq_false_of_ne h]
  exact lookup_cancel_of_ne h r

/-- A caller keeps the place in line whatever the others do. -/
theorem lookup_step {step : Step} (hacquire : step ≠ .acquire caller)
    (hpoll : step ≠ .poll caller) (hcancel : step ≠ .cancel caller) (r : Run) :
    (r.step step).2.1.waiting.lookup caller = r.waiting.lookup caller := by
  cases step with
  | acquire other =>
      have hne : caller ≠ other := fun h => hacquire (h ▸ rfl)
      simp only [Run.step]
      split
      · rw [hold_waiting]
      · exact lookup_wait_of_ne hne _ _
      · rfl
  | poll other =>
      have hne : caller ≠ other := fun h => hpoll (h ▸ rfl)
      simp only [Run.step]
      split
      · rfl
      · split
        · rfl
        · rw [hold_waiting]
          exact lookup_filter_ne r.waiting hne
  | release other =>
      simp only [Run.step, release_waiting]
  | cancel other =>
      have hne : caller ≠ other := fun h => hcancel (h ▸ rfl)
      exact lookup_cancel_of_ne hne r

/-- A caller in line who looks for a worker takes the one that has come, or goes
on waiting as before. -/
theorem step_poll_cases {number : ℕ}
    (hwaits : r.waiting.lookup caller = some number) :
    (r.step (.poll caller) = (.waiting, r, [])) ∨
    ((r.step (.poll caller)).1 = .acquired ∧
      caller ∈ (r.step (.poll caller)).2.1.holders) := by
  rcases hpoll : r.pool.poll number with ⟨_ | _, pool⟩
  · obtain rfl := poll_eq_false hpoll
    exact Or.inl (by simp only [Run.step, hwaits, hpoll])
  · right
    simp only [Run.step, hwaits, hpoll, true_and]
    exact List.mem_cons_self

/-- At one of the steps to come, the caller at a place takes a worker. -/
def IsServed (r : Run) (caller : String) (number : ℕ) (more : List Step) :
    Prop :=
  ∃ before after, more = before ++ .poll caller :: after ∧
    (r.steps before).waiting.lookup caller = some number ∧
    ((r.steps before).step (.poll caller)).1 = .acquired ∧
    caller ∈ ((r.steps before).step (.poll caller)).2.1.holders

/-- In whatever way a run goes on, a caller who does not give the place up keeps
it until a worker is taken. -/
theorem waits_until_served {number : ℕ} (more : List Step)
    (hwaits : r.waiting.lookup caller = some number)
    (hstays : ∀ step ∈ more, step ≠ .acquire caller ∧ step ≠ .cancel caller) :
    (r.steps more).waiting.lookup caller = some number ∨
      r.IsServed caller number more := by
  induction more generalizing r with
  | nil => exact Or.inl hwaits
  | cons step more ih =>
      obtain ⟨⟨hacquire, hcancel⟩, hstays⟩ := List.forall_mem_cons.mp hstays
      -- Unless a worker is taken in this step, the rest goes on from there.
      have hlater (hkept : (r.step step).2.1.waiting.lookup caller = some number) :
          _ := ih hkept hstays
      by_cases hpoll : step = .poll caller
      · subst hpoll
        rcases step_poll_cases hwaits with hwaiting | ⟨hreply, hholds⟩
        · rw [hwaiting] at hlater
          rcases hlater hwaits with hstill | ⟨before, after, rfl, hserved⟩
          · left
            rw [Run.steps, hwaiting]
            exact hstill
          · right
            refine ⟨.poll caller :: before, after, rfl, ?_⟩
            rw [Run.steps, hwaiting]
            exact hserved
        · exact Or.inr ⟨[], more, rfl, hwaits, hreply, hholds⟩
      · have hkept := r.lookup_step hacquire hpoll hcancel
        rcases hlater (hkept.trans hwaits) with hstill |
          ⟨before, after, rfl, hserved⟩
        · exact Or.inl hstill
        · exact Or.inr ⟨step :: before, after, rfl, hserved⟩

/-! ## Admission -/

/-- After any steps, a caller who asks for a worker gets one if one is free, is
turned away if none is and the queue is full, callers counted who have been
assigned a worker, and waits otherwise.  A caller who is turned away leaves
everything as it was, and one who waits is not turned away later. -/
theorem admission_of_steps (name : String) (size queueDepth : ℕ)
    (steps : List Step) (caller : String) :
    let r := (start (create name size queueDepth)).steps steps
    let answer := r.step (.acquire caller)
    (answer.1 = .refused ↔
        r.pool.free = 0 ∧ r.waiting.length = queueDepth) ∧
      (answer.1 = .acquired ↔ 0 < r.pool.free) ∧
      (answer.1 = .waiting ↔
        r.pool.free = 0 ∧ r.waiting.length < queueDepth) ∧
      (answer.1 = .refused → answer.2.1 = r) ∧
      ∀ number, r.waiting.lookup caller = some number →
        ∀ more, (∀ step ∈ more,
            step ≠ .acquire caller ∧ step ≠ .cancel caller) →
          (r.steps more).waiting.lookup caller = some number ∨
            r.IsServed caller number more := by
  intro r answer
  have horder : r.InOrder 0 0 := (inOrder_start name size queueDepth).steps steps
  have hdepth : r.pool.queueDepth = queueDepth :=
    (Prod.mk.inj (steps_pool_terms _ steps)).2
  have hcounted := horder.counted
  have hroom := horder.inTurn.room
  rw [hcounted, hdepth] at hroom
  have hstay (number : ℕ) (hwaits : r.waiting.lookup caller = some number)
      (more : List Step) := waits_until_served more hwaits
  rcases r.step_acquire_cases caller with ⟨hfree, hreply⟩ |
    ⟨hfree, hfull, hanswer⟩ | ⟨hfree, hfew, hreply⟩
  · have hreply : answer.1 = .acquired := hreply
    refine ⟨?_, iff_of_true hreply hfree, ?_, ?_, hstay⟩
    · rw [hreply]
      exact iff_of_false Reply.noConfusion fun h => hfree.ne' h.1
    · rw [hreply]
      exact iff_of_false Reply.noConfusion fun h => hfree.ne' h.1
    · rw [hreply]
      exact Reply.noConfusion
  · have hanswer : answer = (.refused, r, [r.pool.reportFull]) := hanswer
    rw [hcounted, hdepth] at hfull
    rw [hanswer]
    refine ⟨?_, ?_, ?_, fun _ => rfl, hstay⟩
    · exact iff_of_true rfl ⟨hfree, Nat.le_antisymm hroom hfull⟩
    · exact iff_of_false Reply.noConfusion hfree.not_gt
    · exact iff_of_false Reply.noConfusion fun h => Nat.not_lt.mpr hfull h.2
  · have hreply : answer.1 = .waiting := hreply
    rw [hcounted, hdepth] at hfew
    refine ⟨?_, ?_, iff_of_true hreply ⟨hfree, hfew⟩, ?_, hstay⟩
    · rw [hreply]
      exact iff_of_false Reply.noConfusion fun h => hfew.ne h.2
    · rw [hreply]
      exact iff_of_false Reply.noConfusion hfree.not_gt
    · rw [hreply]
      exact Reply.noConfusion

/-- One of two callers in line has been assigned the only worker and not taken
it yet, and another place has been given up.  The next caller makes the line
full, so the one after is turned away. -/
theorem admission_beside_assigned :
    let steps : List Step := [.acquire "holder", .acquire "first",
      .acquire "second", .release "holder", .cancel "second",
      .acquire "third"]
    let r := (start (create "feeds" 1 2)).steps steps
    r.pool.free = 0 ∧ r.waiting = [("third", 2), ("first", 0)] ∧
      r.pool.isAssigned 0 ∧ r.holders = [] ∧
      (r.step (.acquire "fourth")).1 = .refused ∧
      (r.step (.acquire "fourth")).2.1 = r ∧
      ((r.steps [.poll "third", .poll "first"]).waiting.lookup "third" = some 2 ∨
        r.IsServed "third" 2 [.poll "third", .poll "first"]) := by
  intro steps r
  obtain ⟨hrefused, -, -, hunchanged, -⟩ :=
    admission_of_steps "feeds" 1 2 steps "fourth"
  obtain ⟨-, -, -, -, hstays⟩ := admission_of_steps "feeds" 1 2 steps "third"
  have hfree : r.pool.free = 0 := by decide +kernel
  have hwaiting : r.waiting = [("third", 2), ("first", 0)] := by decide +kernel
  have hreply : (r.step (.acquire "fourth")).1 = .refused :=
    hrefused.mpr ⟨hfree, congrArg List.length hwaiting⟩
  refine ⟨hfree, hwaiting, by decide +kernel, by decide +kernel, hreply,
    hunchanged hreply, hstays 2 ?_ _ (by decide)⟩
  change r.waiting.lookup "third" = some 2
  rw [hwaiting]
  rfl

end Newsstand.WorkerPool.Run
