import Newsstand.Proofs.WorkerPool.Conservation

/-!
# First come, first served

Callers who have to wait get their workers in the order in which they began to
wait, in whatever order they look whether a worker has come, and also if some of
them give up.  What has become of those who have left the queue cannot be read
off a run any more, so the statement is about chronicles, which take the steps
of a run and write this down.
-/

namespace Newsstand.WorkerPool

/-! ## Who waits without a worker -/

/-- The caller at a place waits and has no worker. -/
def Waits (p : WorkerPool) (number : ℕ) : Prop :=
  ∃ t ∈ p.queue, t.number = number ∧ ¬t.assigned

variable {p : WorkerPool} {number : ℕ}

/-- Whoever has been assigned a worker came before all who have none. -/
theorem InTurn.lt_of_waits (h : p.InTurn) {busy : ℕ} {places : Multiset ℕ}
    (hstaffed : p.Staffed busy places) {t : Ticket} (ht : t ∈ p.queue)
    (hassigned : t.assigned) (hwaits : p.Waits number) : t.number < number := by
  obtain ⟨u, hu, rfl, hnone⟩ := hwaits
  rcases Nat.lt_trichotomy t.number u.number with hlt | heq | hgt
  · exact hlt
  · have hsame := List.inj_on_of_nodup_map hstaffed.distinct ht hu heq
    exact absurd (hsame ▸ hassigned) hnone
  · exact absurd (h.assigned_of_lt hu ht hgt hassigned) hnone

theorem waits_of_enqueue (h : p.enqueue.Waits number) :
    p.Waits number ∨ number = p.nextNumber := by
  obtain ⟨t, ht, hnumber, hnone⟩ := h
  rcases List.mem_append.mp ht with ht | ht
  · exact Or.inl ⟨t, ht, hnumber, hnone⟩
  · obtain rfl := List.mem_singleton.mp ht
    exact Or.inr hnumber.symm

theorem waits_of_leave {other : ℕ} (h : (p.leave other).Waits number) :
    p.Waits number := by
  obtain ⟨t, ht, hrest⟩ := h
  exact ⟨t, List.mem_of_mem_filter ht, hrest⟩

theorem waits_of_release (h : p.release.Waits number) : p.Waits number := by
  obtain ⟨t, ht, hnumber, hnone⟩ := h
  unfold release at ht
  rcases assignFirst_cases p.queue with ⟨hassign, -⟩ |
    ⟨front, first, back, hqueue, -, -, hassign⟩
  · rw [hassign] at ht
    exact ⟨t, ht, hnumber, hnone⟩
  · rw [hassign] at ht
    refine ⟨t, ?_, hnumber, hnone⟩
    rw [hqueue]
    rcases List.mem_append.mp ht with ht | ht
    · exact List.mem_append_left _ ht
    · rcases List.mem_cons.mp ht with rfl | ht
      · exact absurd rfl hnone
      · exact List.mem_append_right _ (List.mem_cons_of_mem _ ht)

theorem waits_of_cancel {other : ℕ} (h : (p.cancel other).Waits number) :
    p.Waits number := by
  unfold cancel at h
  split at h
  · exact waits_of_leave (waits_of_release h)
  · exact waits_of_leave h

theorem release_nextNumber (p : WorkerPool) :
    p.release.nextNumber = p.nextNumber := by
  unfold release
  split <;> rfl

theorem cancel_nextNumber (p : WorkerPool) (number : ℕ) :
    (p.cancel number).nextNumber = p.nextNumber := by
  unfold cancel
  split
  · exact release_nextNumber _
  · rfl

namespace Run

variable {r : Run}

/-- The place at which a caller waits, if there is one. -/
def placeOf (r : Run) (caller : String) : List ℕ :=
  (r.waiting.lookup caller).toList

theorem mem_placeOf {caller : String} {number : ℕ} :
    number ∈ r.placeOf caller ↔ r.waiting.lookup caller = some number := by
  rw [placeOf, Option.mem_toList]

theorem placeOf_wait (r : Run) (caller : String) (number : ℕ) :
    (r.wait caller number).placeOf caller = [number] := by
  simp [placeOf, wait]

theorem release_waiting (r : Run) (caller : String) :
    (r.release caller).2.waiting = r.waiting := by
  unfold Run.release
  split <;> rfl

theorem hold_waiting (r : Run) (caller : String) :
    (r.hold caller).waiting = r.waiting :=
  r.release_waiting caller

theorem release_pool_nextNumber (r : Run) (caller : String) :
    (r.release caller).2.pool.nextNumber = r.pool.nextNumber := by
  rcases r.release_pool caller with hpool | hpool
  · rw [hpool]
  · rw [hpool, release_nextNumber]

theorem waits_of_run_release {caller : String} {number : ℕ}
    (h : (r.release caller).2.pool.Waits number) : r.pool.Waits number := by
  rcases r.release_pool caller with hpool | hpool
  · rwa [hpool] at h
  · rw [hpool] at h
    exact waits_of_release h

theorem waits_of_hold {caller : String} {number : ℕ}
    (h : (r.hold caller).pool.Waits number) : r.pool.Waits number := by
  have hreleased : (r.release caller).2.pool.Waits number := h
  exact waits_of_run_release hreleased

theorem cancel_pool_nextNumber (r : Run) (caller : String) :
    (r.cancel caller).2.pool.nextNumber = r.pool.nextNumber := by
  rcases r.cancel_pool caller with hpool | ⟨number, hpool⟩
  · rw [hpool]
  · rw [hpool, cancel_nextNumber]

theorem waits_of_run_cancel {caller : String} {number : ℕ}
    (h : (r.cancel caller).2.pool.Waits number) : r.pool.Waits number := by
  rcases r.cancel_pool caller with hpool | ⟨other, hpool⟩
  · rwa [hpool] at h
  · rw [hpool] at h
    exact waits_of_cancel h

/-- Whoever waits does so under another name or at the place of the name. -/
theorem InOrder.mem_filter_or_placeOf {taken : ℕ} {joined : Multiset ℕ}
    (h : r.InOrder taken joined) {caller : String} {number place : ℕ}
    (hlookup : r.waiting.lookup caller = some place)
    (hmem : number ∈ r.waiting.map Prod.snd) :
    number ∈ (r.waiting.filter (·.1 != caller)).map Prod.snd ∨
      number ∈ r.placeOf caller := by
  have hnumber : number ∈ r.places := hmem
  rw [h.places_of_lookup hlookup] at hnumber
  rcases Multiset.mem_cons.mp hnumber with rfl | hrest
  · exact Or.inr (mem_placeOf.mpr hlookup)
  · exact Or.inl hrest

theorem InOrder.mem_cancel_or_placeOf {taken : ℕ} {joined : Multiset ℕ}
    (h : r.InOrder taken joined) (caller : String) {number : ℕ}
    (hmem : number ∈ r.waiting.map Prod.snd) :
    number ∈ (r.cancel caller).2.waiting.map Prod.snd ∨
      number ∈ r.placeOf caller := by
  unfold Run.cancel
  split
  next => exact Or.inl hmem
  next place hlookup => exact h.mem_filter_or_placeOf hlookup hmem

end Run

/-! ## Chronicles -/

/-- A run with the places at which somebody has begun to wait, in the order in
which this happened, those at which a worker was taken, and those that were
given up. -/
structure Chronicle where
  run : Run
  begun : List ℕ
  served : List ℕ
  gone : List ℕ

namespace Chronicle

/-- The start of a chronicle, when nobody waits. -/
def start (r : Run) : Chronicle :=
  ⟨r, [], [], []⟩

/-- The place at which somebody begins to wait in a step that led to `next`. -/
def beginsAt (next : Run) : Step → Reply → List ℕ
  | .acquire caller, .waiting => next.placeOf caller
  | _, _ => []

/-- The place at which a worker is taken in a step. -/
def servesAt (r : Run) : Step → Reply → List ℕ
  | .poll caller, .acquired => r.placeOf caller
  | _, _ => []

/-- The place that is given up in a step.  Whoever waits under a name gives up
when it is used to wait anew. -/
def givesUp (r : Run) : Step → Reply → List ℕ
  | .acquire caller, .waiting => r.placeOf caller
  | .cancel caller, _ => r.placeOf caller
  | _, _ => []

/-- Takes a step of the run and writes down what becomes of a place. -/
def step (c : Chronicle) (step : Step) : Chronicle :=
  let next := c.run.step step
  { run := next.2.1
    begun := c.begun ++ beginsAt next.2.1 step next.1
    served := c.served ++ servesAt c.run step next.1
    gone := c.gone ++ givesUp c.run step next.1 }

/-- Takes one step after another. -/
def steps (c : Chronicle) : List Step → Chronicle
  | [] => c
  | step :: steps => (c.step step).steps steps

/-- A chronicle changes nothing about the run. -/
theorem steps_run (c : Chronicle) (steps : List Step) :
    (c.steps steps).run = c.run.steps steps := by
  induction steps generalizing c with
  | nil => rfl
  | cons step steps ih => exact ih (c.step step)

/-- The caller at a place has been assigned a worker, or has taken one. -/
def HasWorker (c : Chronicle) (number : ℕ) : Prop :=
  c.run.pool.isAssigned number ∨ number ∈ c.served

/-- A chronicle knows of every place that was given out, and nobody was served
before someone who came earlier and still waits. -/
structure Faithful (c : Chronicle) : Prop where
  inOrder : c.run.InOrder 0 0
  begun : c.begun = List.range c.run.pool.nextNumber
  known : ∀ n ∈ c.begun,
    n ∈ c.run.waiting.map Prod.snd ∨ n ∈ c.served ∨ n ∈ c.gone
  served_lt : ∀ n ∈ c.served, n < c.run.pool.nextNumber
  fair : ∀ n ∈ c.served, ∀ m, c.run.pool.Waits m → n < m

variable {c : Chronicle}

theorem faithful_start (name : String) (size queueDepth : ℕ) :
    (start (Run.start (create name size queueDepth))).Faithful := by
  refine ⟨Run.inOrder_start _ _ _, rfl, ?_, ?_, ?_⟩
  · exact List.forall_mem_nil _
  · exact List.forall_mem_nil _
  · exact List.forall_mem_nil _

/-- A chronicle stays faithful when nobody joins the queue, each who leaves it
is written down, and whoever is served came before all who wait. -/
theorem Faithful.after (h : c.Faithful) {run : Run} {served gone : List ℕ}
    (hinOrder : run.InOrder 0 0)
    (hnext : run.pool.nextNumber = c.run.pool.nextNumber)
    (hwaits : ∀ m, run.pool.Waits m → c.run.pool.Waits m)
    (hknown : ∀ n ∈ c.run.waiting.map Prod.snd,
      n ∈ run.waiting.map Prod.snd ∨ n ∈ served ∨ n ∈ gone)
    (hserved : ∀ n ∈ served, n < c.run.pool.nextNumber ∧
      ∀ m, c.run.pool.Waits m → n < m) :
    Faithful ⟨run, c.begun, c.served ++ served, c.gone ++ gone⟩ := by
  refine ⟨hinOrder, ?_, ?_, ?_, ?_⟩
  · exact h.begun.trans (congrArg List.range hnext.symm)
  · intro n hn
    simp only [List.mem_append]
    rcases h.known n hn with hstill | hbefore | hbefore
    · rcases hknown n hstill with hstill | hnow | hnow
      · exact Or.inl hstill
      · exact Or.inr (Or.inl (Or.inr hnow))
      · exact Or.inr (Or.inr (Or.inr hnow))
    · exact Or.inr (Or.inl (Or.inl hbefore))
    · exact Or.inr (Or.inr (Or.inl hbefore))
  · intro n hn
    rw [hnext]
    rcases List.mem_append.mp hn with hbefore | hnow
    · exact h.served_lt n hbefore
    · exact (hserved n hnow).1
  · intro n hn m hm
    rcases List.mem_append.mp hn with hbefore | hnow
    · exact h.fair n hbefore m (hwaits m hm)
    · exact (hserved n hnow).2 m (hwaits m hm)

theorem Faithful.acquire (h : c.Faithful) (caller : String) :
    (c.step (.acquire caller)).Faithful := by
  have hinOrder := h.inOrder.acquire caller
  rcases c.run.pool.acquire_cases with ⟨-, hacquire⟩ | ⟨-, -, hacquire⟩ |
    ⟨hfree, hroom, hacquire⟩
  · simp only [Chronicle.step, Run.step, hacquire, beginsAt, servesAt,
      givesUp, List.append_nil c.begun] at hinOrder ⊢
    apply h.after hinOrder
    · exact Run.release_pool_nextNumber _ caller
    · intro m hm
      have hbefore := Run.waits_of_hold hm
      exact hbefore
    · intro n hn
      rw [Run.hold_waiting]
      exact Or.inl hn
    · exact List.forall_mem_nil _
  · simp only [Chronicle.step, Run.step, hacquire, beginsAt, servesAt,
      givesUp, List.append_nil]
    exact h
  · simp only [Chronicle.step, Run.step, hacquire, beginsAt, servesAt,
      givesUp, Run.placeOf_wait, List.append_nil] at hinOrder ⊢
    -- Between the two parts of the step a new place goes by no name.
    have hjoined := h.inOrder.enqueue hfree hroom
    have hnext := Run.cancel_pool_nextNumber
      { c.run with pool := c.run.pool.enqueue } caller
    refine ⟨hinOrder, ?_, ?_, ?_, ?_⟩
    · simp only [Run.wait, hnext]
      rw [h.begun, ← List.range_succ]
      rfl
    · intro n hn
      rcases List.mem_append.mp hn with hbefore | hnow
      · rcases h.known n hbefore with hstill | hserved | hgone
        · rcases hjoined.mem_cancel_or_placeOf caller hstill with
            hrest | hplace
          · exact Or.inl (List.mem_cons_of_mem _ hrest)
          · exact Or.inr (Or.inr (List.mem_append_right _ hplace))
        · exact Or.inr (Or.inl hserved)
        · exact Or.inr (Or.inr (List.mem_append_left _ hgone))
      · obtain rfl := List.mem_singleton.mp hnow
        exact Or.inl List.mem_cons_self
    · intro n hn
      simp only [Run.wait, hnext]
      exact Nat.lt_succ_of_lt (h.served_lt n hn)
    · intro n hn m hm
      rcases waits_of_enqueue (Run.waits_of_run_cancel hm) with hold | rfl
      · exact h.fair n hn m hold
      · exact h.served_lt n hn

theorem Faithful.poll (h : c.Faithful) (caller : String) :
    (c.step (.poll caller)).Faithful := by
  have hinOrder := h.inOrder.poll caller
  cases hlookup : c.run.waiting.lookup caller with
  | none =>
      simp only [Chronicle.step, Run.step, hlookup, beginsAt, servesAt,
        givesUp, List.append_nil]
      exact h
  | some place =>
      rcases hpoll : c.run.pool.poll place with ⟨_ | _, pool⟩
      · obtain rfl := poll_eq_false hpoll
        simp only [Chronicle.step, Run.step, hlookup, hpoll, beginsAt,
          servesAt, givesUp, List.append_nil]
        exact h
      · simp only [Chronicle.step, Run.step, hlookup, hpoll, beginsAt,
          servesAt, givesUp, List.append_nil c.begun] at hinOrder ⊢
        have hassigned : c.run.pool.isAssigned place := by
          by_contra hnot
          simp [WorkerPool.poll, hnot] at hpoll
        have hleft : pool = c.run.pool.leave place := by
          simpa [WorkerPool.poll, hassigned] using hpoll.symm
        apply h.after hinOrder
        · rw [Run.hold, hleft]
          exact Run.release_pool_nextNumber _ caller
        · intro m hm
          have hleave := Run.waits_of_hold hm
          simp only [hleft] at hleave
          exact waits_of_leave hleave
        · intro n hn
          rw [Run.hold_waiting]
          rcases h.inOrder.mem_filter_or_placeOf hlookup hn with
            hrest | hplace
          · exact Or.inl hrest
          · exact Or.inr (Or.inl hplace)
        · intro n hn
          obtain rfl : place = n := by
            simpa [hlookup] using Run.mem_placeOf.mp hn
          obtain ⟨t, ht, rfl⟩ :=
            h.inOrder.mem_queue (mem_of_lookup hlookup)
          rw [h.inOrder.staffed.isAssigned_iff ht] at hassigned
          constructor
          · exact h.inOrder.inTurn.issued t ht
          · intro m hm
            exact h.inOrder.inTurn.lt_of_waits h.inOrder.staffed ht
              hassigned hm

theorem Faithful.step (h : c.Faithful) (step : Step) :
    (c.step step).Faithful := by
  have hinOrder := h.inOrder.step step
  cases step with
  | acquire caller => exact h.acquire caller
  | poll caller => exact h.poll caller
  | release caller =>
      simp only [Chronicle.step, Run.step, beginsAt, servesAt, givesUp,
        List.append_nil c.begun] at hinOrder ⊢
      apply h.after hinOrder
      · exact Run.release_pool_nextNumber c.run caller
      · intro m hm
        exact Run.waits_of_run_release hm
      · intro n hn
        rw [Run.release_waiting]
        exact Or.inl hn
      · exact List.forall_mem_nil _
  | cancel caller =>
      simp only [Chronicle.step, Run.step, beginsAt, servesAt, givesUp,
        List.append_nil c.begun] at hinOrder ⊢
      apply h.after hinOrder
      · exact Run.cancel_pool_nextNumber c.run caller
      · intro m hm
        exact Run.waits_of_run_cancel hm
      · intro n hn
        rcases h.inOrder.mem_cancel_or_placeOf caller hn with hrest | hplace
        · exact Or.inl hrest
        · exact Or.inr (Or.inr hplace)
      · exact List.forall_mem_nil _

theorem Faithful.steps (h : c.Faithful) (steps : List Step) :
    (c.steps steps).Faithful := by
  induction steps generalizing c with
  | nil => exact h
  | cons step steps ih => exact ih (h.step step)

/-! ## Fairness -/

theorem Faithful.waits_or_hasWorker (h : c.Faithful) {n : ℕ}
    (hn : n ∈ c.begun) :
    c.run.pool.Waits n ∨ c.HasWorker n ∨ n ∈ c.gone := by
  rcases h.known n hn with hstill | hserved | hgone
  · obtain ⟨⟨caller, place⟩, hcaller, rfl⟩ := List.mem_map.mp hstill
    obtain ⟨t, ht, rfl⟩ := h.inOrder.mem_queue hcaller
    by_cases hassigned : t.assigned
    · right
      left
      left
      rwa [h.inOrder.staffed.isAssigned_iff ht]
    · exact Or.inl ⟨t, ht, rfl, hassigned⟩
  · exact Or.inr (Or.inl (Or.inr hserved))
  · exact Or.inr (Or.inr hgone)

/-- Whoever has a worker came before all who have none. -/
theorem Faithful.lt_of_waits (h : c.Faithful) {n m : ℕ}
    (hn : c.HasWorker n) (hm : c.run.pool.Waits m) : n < m := by
  rcases hn with hassigned_any | hserved
  · obtain ⟨t, ht, hfound⟩ := List.any_eq_true.mp hassigned_any
    simp only [Bool.and_eq_true, beq_iff_eq] at hfound
    obtain ⟨rfl, hassigned⟩ := hfound
    exact h.inOrder.inTurn.lt_of_waits h.inOrder.staffed ht hassigned hm
  · exact h.fair n hserved m hm

theorem Faithful.lt_of_sublist (h : c.Faithful) {a b : ℕ}
    (hab : List.Sublist [a, b] c.begun) : a < b := by
  rw [h.begun] at hab
  exact List.pairwise_iff_forall_sublist.mp List.pairwise_lt_range hab

/-- Workers reach those who wait in the order in which they began to wait,
unless they give up, and nobody who comes later gets one at once while someone
waits for it. -/
theorem fair_of_steps (name : String) (size queueDepth : ℕ)
    (steps : List Step) :
    let c := (start (Run.start (create name size queueDepth))).steps steps
    (∀ a b, List.Sublist [a, b] c.begun → c.HasWorker b →
      c.HasWorker a ∨ a ∈ c.gone) ∧
    ∀ waiting ∈ c.run.waiting, ¬c.run.pool.isAssigned waiting.2 →
      ∀ caller, (c.run.step (.acquire caller)).1 ≠ .acquired := by
  intro c
  have h : c.Faithful := (faithful_start name size queueDepth).steps steps
  constructor
  · intro a b hab hb
    have ha : a ∈ c.begun := hab.subset List.mem_cons_self
    rcases h.waits_or_hasWorker ha with hwaits | hrest
    · have hlt := h.lt_of_sublist hab
      have hgt := h.lt_of_waits hb hwaits
      omega
    · exact hrest
  · intro waiting hwaiting hnone caller
    obtain ⟨t, ht, hnumber⟩ := h.inOrder.mem_queue hwaiting
    rw [← hnumber, h.inOrder.staffed.isAssigned_iff ht] at hnone
    have hne := h.inOrder.inTurn.acquire_ne_worker ht hnone
    simp only [Run.step]
    split
    next pool log heq =>
        rw [heq] at hne
        exact absurd rfl hne
    next => exact Reply.noConfusion
    next => exact Reply.noConfusion

/-- The first of three callers takes a worker and gives it back, the second one
gives up the worker that is passed on, and the third one is assigned it before
anybody who comes later. -/
theorem fair_past_cancelled :
    let c := (start (Run.start (create "feeds" 1 3))).steps
      [.acquire "holder", .acquire "first", .acquire "second",
        .acquire "third", .release "holder", .poll "first", .release "first",
        .cancel "second", .acquire "fourth"]
    (List.Sublist [0, 2] c.begun ∧ List.Sublist [1, 2] c.begun) ∧
      c.HasWorker 2 ∧ (c.HasWorker 0 ∨ 0 ∈ c.gone) ∧
      (c.HasWorker 1 ∨ 1 ∈ c.gone) ∧
      ("fourth", 3) ∈ c.run.waiting ∧ ¬c.run.pool.isAssigned 3 ∧
      (c.run.step (.acquire "fifth")).1 ≠ .acquired := by
  intro c
  have hfair := fair_of_steps "feeds" 1 3
    [.acquire "holder", .acquire "first", .acquire "second",
      .acquire "third", .release "holder", .poll "first", .release "first",
      .cancel "second", .acquire "fourth"]
  have hfirst : List.Sublist [0, 2] c.begun := by decide +kernel
  have hsecond : List.Sublist [1, 2] c.begun := by decide +kernel
  have hthird : c.HasWorker 2 := Or.inl (by decide +kernel)
  have hfourth : ("fourth", 3) ∈ c.run.waiting := by decide +kernel
  have hnone : ¬c.run.pool.isAssigned 3 := by decide +kernel
  exact ⟨⟨hfirst, hsecond⟩, hthird, hfair.1 0 2 hfirst hthird,
    hfair.1 1 2 hsecond hthird, hfourth, hnone,
    hfair.2 _ hfourth hnone "fifth"⟩

end Chronicle

end Newsstand.WorkerPool
