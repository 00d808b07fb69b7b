import Newsstand.Proofs.Breaker.Situation

/-!
# Transitions of a circuit breaker

What an act can come to, once and for all.  A breaker writes down the time of
an opening before it looks whether its circuit may be opened at all, so the
list of transitions is complete only for situations in which a trial is held
exactly while the circuit is half-open.  Acts preserve this, and the situations
that can be reached from a new breaker are all of this kind.
-/

namespace Newsstand.Breaker

/-! ## Operations -/

/-- The breaker with its circuit opened at a time. -/
def openAt (b : Breaker) (now : ℕ) : Breaker :=
  { b with openedAt := now, circuit := .opened }

/-- The breaker after a successful trial. -/
def recover (b : Breaker) : Breaker :=
  { b with window := b.window.reset, circuit := .closed }

@[simp] theorem openAt_circuit (b : Breaker) (now : ℕ) :
    (b.openAt now).circuit = .opened := rfl

@[simp] theorem openAt_openedAt (b : Breaker) (now : ℕ) :
    (b.openAt now).openedAt = now := rfl

@[simp] theorem openAt_window (b : Breaker) (now : ℕ) :
    (b.openAt now).window = b.window := rfl

@[simp] theorem recover_circuit (b : Breaker) :
    b.recover.circuit = .closed := rfl

@[simp] theorem recover_window (b : Breaker) :
    b.recover.window = b.window.reset := rfl

@[simp] theorem refuse_circuit (b : Breaker) :
    b.refuse.circuit = b.circuit := rfl

@[simp] theorem refuse_openedAt (b : Breaker) :
    b.refuse.openedAt = b.openedAt := rfl

@[simp] theorem refuse_window (b : Breaker) :
    b.refuse.window = b.window := rfl

@[simp] theorem count_circuit (b : Breaker) (now : ℕ) (success : Bool) :
    (b.count now success).circuit = b.circuit := rfl

@[simp] theorem count_openedAt (b : Breaker) (now : ℕ) (success : Bool) :
    (b.count now success).openedAt = b.openedAt := rfl

@[simp] theorem count_window (b : Breaker) (now : ℕ) (success : Bool) :
    (b.count now success).window = b.window.record now success := rfl

theorem ask_of_closed {b : Breaker} (h : b.circuit = .closed) (now : ℕ) :
    b.ask now = (some .ordinary, b, []) := by
  simp only [ask, h]

theorem ask_of_slept {b : Breaker} {now : ℕ} (h : b.circuit = .opened)
    (hslept : b.hasSlept now) :
    b.ask now =
      (some .trial, { b with circuit := .halfOpen }, [b.reportTrial]) := by
  simp only [ask, h, hslept, if_true]

theorem ask_of_asleep {b : Breaker} {now : ℕ} (h : b.circuit = .opened)
    (hasleep : ¬b.hasSlept now) :
    b.ask now = (none, b.refuse, []) := by
  simp only [ask, h, hasleep, Bool.false_eq_true, if_false]

theorem ask_of_halfOpen {b : Breaker} (h : b.circuit = .halfOpen) (now : ℕ) :
    b.ask now = (none, b.refuse, []) := by
  simp only [ask, h]

theorem trip_of_eq {b : Breaker} {expected : Circuit}
    (h : b.circuit = expected) (now : ℕ) :
    (b.trip expected now).1 = b.openAt now := by
  simp only [trip, h, if_true, openAt]

theorem settle_trial_of_ne_success {b : Breaker} {outcome : Outcome}
    (h : b.circuit = .halfOpen) (houtcome : outcome ≠ .success) (now : ℕ) :
    (b.settle now .trial outcome).1 = b.openAt now := by
  cases outcome with
  | success => exact absurd rfl houtcome
  | failure => exact trip_of_eq h now
  | abandoned => exact trip_of_eq h now

theorem settle_ordinary_failure_of_exceeds {b : Breaker} {now : ℕ}
    (h : b.circuit = .closed) (hexceeds : (b.count now false).exceeds now) :
    (b.settle now .ordinary .failure).1 = (b.count now false).openAt now := by
  have hclosed : (b.count now false).circuit = .closed := h
  simp only [settle, hclosed, hexceeds, decide_true, Bool.and_self, if_true]
  exact trip_of_eq hclosed now

theorem settle_ordinary_failure_of_not {b : Breaker} {now : ℕ}
    (h : b.circuit = .closed → ¬(b.count now false).exceeds now) :
    (b.settle now .ordinary .failure).1 = b.count now false := by
  have hno : ¬(decide ((b.count now false).circuit = .closed) &&
      (b.count now false).exceeds now) = true := by
    rw [Bool.and_eq_true, decide_eq_true_eq]
    rintro ⟨hclosed, hexceeds⟩
    exact h hclosed hexceeds
  simp only [settle]
  rw [if_neg hno]

/-! ## Coherence -/

/-- A trial is held exactly while the circuit is half-open, and never more than
one. -/
def Situation.Coherent (s : Situation) : Prop :=
  s.permits.count .trial = if s.breaker.circuit = .halfOpen then 1 else 0

namespace Situation

variable {s : Situation}

theorem Coherent.halfOpen_iff (h : s.Coherent) :
    s.breaker.circuit = .halfOpen ↔ .trial ∈ s.permits := by
  rw [← Multiset.one_le_count_iff_mem, h]
  split <;> simp_all

theorem start_coherent (name : String) (config : BreakerConfig) (now : ℕ) :
    (start name config now).Coherent := rfl

/-! ## Transitions -/

/-- What an act comes to: the act, and the situation after it. -/
inductive Transition (s : Situation) : Act → Situation → Prop
  /-- A closed circuit admits every call. -/
  | admitted (hclosed : s.breaker.circuit = .closed) :
      Transition s .ask { s with permits := .ordinary ::ₘ s.permits }
  /-- An open circuit that has been open for long enough admits one call. -/
  | tried (hopened : s.breaker.circuit = .opened)
      (hslept : s.breaker.hasSlept s.now) :
      Transition s .ask
        { s with
          breaker := { s.breaker with circuit := .halfOpen }
          permits := .trial ::ₘ s.permits }
  /-- Any other call is refused. -/
  | refused (hclosed : s.breaker.circuit ≠ .closed)
      (hasleep : s.breaker.circuit = .opened → ¬s.breaker.hasSlept s.now) :
      Transition s .ask { s with breaker := s.breaker.refuse }
  /-- A successful trial closes the circuit. -/
  | recovered (hhalf : s.breaker.circuit = .halfOpen)
      (hheld : .trial ∈ s.permits) :
      Transition s (.settle .trial .success)
        { s with
          breaker := s.breaker.recover
          permits := s.permits.erase .trial }
  /-- Any other end of a trial opens the circuit again. -/
  | reopened {outcome : Outcome} (hhalf : s.breaker.circuit = .halfOpen)
      (hheld : .trial ∈ s.permits) (houtcome : outcome ≠ .success) :
      Transition s (.settle .trial outcome)
        { s with
          breaker := s.breaker.openAt s.now
          permits := s.permits.erase .trial }
  /-- One failure too many opens a closed circuit. -/
  | tripped (hclosed : s.breaker.circuit = .closed)
      (hheld : .ordinary ∈ s.permits)
      (hexceeds : (s.breaker.count s.now false).exceeds s.now) :
      Transition s (.settle .ordinary .failure)
        { s with
          breaker := (s.breaker.count s.now false).openAt s.now
          permits := s.permits.erase .ordinary }
  /-- Any other failure is only counted. -/
  | failed (hheld : .ordinary ∈ s.permits)
      (hbelow : s.breaker.circuit = .closed →
        ¬(s.breaker.count s.now false).exceeds s.now) :
      Transition s (.settle .ordinary .failure)
        { s with
          breaker := s.breaker.count s.now false
          permits := s.permits.erase .ordinary }
  /-- A success is only counted. -/
  | succeeded (hheld : .ordinary ∈ s.permits) :
      Transition s (.settle .ordinary .success)
        { s with
          breaker := s.breaker.count s.now true
          permits := s.permits.erase .ordinary }
  /-- Nothing comes of an ordinary call that is abandoned. -/
  | abandoned (hheld : .ordinary ∈ s.permits) :
      Transition s (.settle .ordinary .abandoned)
        { s with permits := s.permits.erase .ordinary }
  /-- Nothing comes of settling a permit that nobody holds. -/
  | unheld {permit : Permit} {outcome : Outcome}
      (hheld : permit ∉ s.permits) :
      Transition s (.settle permit outcome) s
  /-- Time passes. -/
  | waited (ms : ℕ) :
      Transition s (.wait ms) { s with now := later s.now ms }

theorem transition_ask (s : Situation) : Transition s .ask (s.act .ask) := by
  cases hcircuit : s.breaker.circuit with
  | closed =>
      rw [act_ask_of_some (ask_of_closed hcircuit s.now)]
      exact .admitted hcircuit
  | opened =>
      by_cases hslept : s.breaker.hasSlept s.now
      · rw [act_ask_of_some (ask_of_slept hcircuit hslept)]
        exact .tried hcircuit hslept
      · rw [act_ask_of_none (ask_of_asleep hcircuit hslept)]
        exact .refused (by simp [hcircuit]) fun _ => hslept
  | halfOpen =>
      rw [act_ask_of_none (ask_of_halfOpen hcircuit s.now)]
      exact .refused (by simp [hcircuit]) (by simp [hcircuit])

theorem Coherent.transition_settle (h : s.Coherent) (permit : Permit)
    (outcome : Outcome) :
    Transition s (.settle permit outcome) (s.act (.settle permit outcome)) := by
  by_cases hheld : permit ∈ s.permits
  · rw [act_settle_of_mem hheld]
    cases permit with
    | trial =>
        have hhalf := h.halfOpen_iff.mpr hheld
        by_cases houtcome : outcome = .success
        · subst houtcome
          exact .recovered hhalf hheld
        · rw [settle_trial_of_ne_success hhalf houtcome]
          exact .reopened hhalf hheld houtcome
    | ordinary =>
        cases outcome with
        | success => exact .succeeded hheld
        | abandoned => exact .abandoned hheld
        | failure =>
            by_cases htrips : s.breaker.circuit = .closed ∧
                (s.breaker.count s.now false).exceeds s.now
            · obtain ⟨hclosed, hexceeds⟩ := htrips
              rw [settle_ordinary_failure_of_exceeds hclosed hexceeds]
              exact .tripped hclosed hheld hexceeds
            · have hbelow := not_and.mp htrips
              rw [settle_ordinary_failure_of_not hbelow]
              exact .failed hheld hbelow
  · rw [act_settle_of_not_mem hheld]
    exact .unheld hheld

/-- Every act comes to one of the transitions. -/
theorem Coherent.transition (h : s.Coherent) (a : Act) :
    Transition s a (s.act a) := by
  cases a with
  | ask => exact transition_ask s
  | settle permit outcome => exact h.transition_settle permit outcome
  | wait ms => exact .waited ms

/-- No transition leaves a trial without a half-open circuit, or a half-open
circuit without its trial. -/
theorem Transition.coherent {a : Act} {t : Situation} (h : Transition s a t)
    (hs : s.Coherent) : t.Coherent := by
  unfold Coherent at hs ⊢
  cases h with
  | admitted hclosed => simp_all
  | tried hopened => simp_all
  | refused => exact hs
  | recovered hhalf hheld => simp_all
  | reopened hhalf hheld => simp_all
  | tripped hclosed hheld => simp_all
  | failed =>
      rw [Multiset.count_erase_of_ne (by decide)]
      exact hs
  | succeeded =>
      rw [Multiset.count_erase_of_ne (by decide)]
      exact hs
  | abandoned =>
      rw [Multiset.count_erase_of_ne (by decide)]
      exact hs
  | unheld hheld => exact hs
  | waited ms => exact hs

theorem Coherent.act (h : s.Coherent) (a : Act) : (s.act a).Coherent :=
  (h.transition a).coherent h

theorem Coherent.after (h : s.Coherent) (past : List Act) :
    (s.after past).Coherent := by
  induction past with
  | nil => exact h
  | cons a past ih => exact ih.act a

end Situation

end Newsstand.Breaker
