import Newsstand.Proofs.Breaker.Sleep

/-!
# Trials of a circuit breaker

A circuit is half-open exactly while one trial is out, so whoever holds the
trial will end this state: by settling it, or by giving it up.  A circuit
without a trial is closed or open, and an open one admits a call as soon as it
has slept.  Waiting for the length of the sleep is enough for this unless the
clock reads less than at the opening.
-/

namespace Newsstand.Breaker.Situation

variable {s : Situation}

/-- Waiting moves the clock, and nothing else. -/
theorem act_wait (s : Situation) {ms : ℕ} (h : s.now + ms < UInt64.size) :
    s.act (.wait ms) = { s with now := s.now + ms } := by
  simp only [act, later, Nat.mod_eq_of_lt h]

/-- A breaker that is not on trial admits a call after it has slept. -/
theorem ask_after_wait (hnot : s.breaker.circuit ≠ .halfOpen) {ms : ℕ}
    (hsleep : s.breaker.sleepMs ≤ ms) (hclock : s.now + ms < UInt64.size)
    (hopened : s.breaker.circuit = .opened → s.breaker.openedAt ≤ s.now) :
    let t := s.act (.wait ms)
    (s.breaker.circuit = .closed ∧
        (t.breaker.ask t.now).1 = some .ordinary) ∨
      (s.breaker.circuit = .opened ∧
        (t.breaker.ask t.now).1 = some .trial) := by
  rw [act_wait s hclock]
  cases hcircuit : s.breaker.circuit with
  | closed => exact Or.inl ⟨rfl, by rw [ask_of_closed hcircuit]⟩
  | opened =>
      have hle := hopened hcircuit
      have hslept : s.breaker.hasSlept (s.now + ms) := by
        simp only [hasSlept, decide_eq_true_eq]
        omega
      exact Or.inr ⟨rfl, by rw [ask_of_slept hcircuit hslept]⟩
  | halfOpen => exact absurd hcircuit hnot

/-- A circuit is half-open exactly while one trial is out, and otherwise none
is.  Then a call is admitted after the length of a sleep, on trial if the
circuit is open, unless the clock reads less than at the opening; which it does
only if it has gone back. -/
theorem halfOpen_iff_one_trial (name : String) (config : BreakerConfig)
    (now : ℕ) (past : List Act) :
    let new := start name config now
    let s := new.after past
    (s.breaker.circuit = .halfOpen ↔ s.permits.count .trial = 1) ∧
    (s.breaker.circuit ≠ .halfOpen → s.permits.count .trial = 0) ∧
    (∀ ms, .trial ∉ s.permits → config.sleepWindowMs ≤ ms →
      s.now + ms < UInt64.size →
      (s.breaker.circuit = .opened → s.breaker.openedAt ≤ s.now) →
      let t := s.act (.wait ms)
      (s.breaker.circuit = .closed ∧
          (t.breaker.ask t.now).1 = some .ordinary) ∨
        (s.breaker.circuit = .opened ∧
          (t.breaker.ask t.now).1 = some .trial)) ∧
    (new.Steady past → s.breaker.circuit = .opened →
      s.breaker.openedAt ≤ s.now) := by
  intro new s
  have hcoherent : s.Coherent := (start_coherent name config now).after past
  have hsleep : s.breaker.sleepMs = config.sleepWindowMs :=
    (start_follows name config now past).sleepMs_eq
  refine ⟨?_, ?_, ?_, fun hsteady => openedAt_le_now name config now hsteady⟩
  · rw [Coherent] at hcoherent
    rw [hcoherent]
    simp
  · intro hnot
    rw [Coherent, if_neg hnot] at hcoherent
    exact hcoherent
  · intro ms htrial hms hclock hopened
    have hnot : s.breaker.circuit ≠ .halfOpen := fun hhalf =>
      htrial (hcoherent.halfOpen_iff.mp hhalf)
    exact ask_after_wait hnot (hsleep ▸ hms) hclock hopened

/-- A circuit opens, and the trial after its sleep is given up while an ordinary
call is still out. -/
def trialGivenUp : List Act :=
  [.wait 300, .settle .trial .abandoned, .ask, .wait 1000,
    .settle .ordinary .failure, .ask, .ask]

/-- After a trial that is given up, and another sleep, another one is admitted.
-/
theorem tries_again_after_given_up_trial :
    let config : BreakerConfig :=
      { requestVolumeThreshold := 1, sleepWindowMs := 1000 }
    let new := start "feeds" config 0
    let s := new.after trialGivenUp
    let t := s.act (.wait 1000)
    new.Steady trialGivenUp ∧ s.breaker.circuit = .opened ∧
      .trial ∉ s.permits ∧ config.sleepWindowMs ≤ 1000 ∧
      s.now + 1000 < UInt64.size ∧ (t.breaker.ask t.now).1 = some .trial := by
  have hsteady := steady_of_waited_lt
    (start "feeds" { requestVolumeThreshold := 1, sleepWindowMs := 1000 } 0)
    trialGivenUp (by decide)
  obtain ⟨-, -, hadmits, hle⟩ := halfOpen_iff_one_trial "feeds"
    { requestVolumeThreshold := 1, sleepWindowMs := 1000 } 0 trialGivenUp
  rcases hadmits 1000 (by decide) (by decide) (by decide)
      fun hopened => hle hsteady hopened with ⟨hclosed, -⟩ | ⟨hopened, htrial⟩
  · exact absurd hclosed (by decide)
  · exact ⟨hsteady, hopened, by decide, by decide, by decide, htrial⟩

/-- A clock that starts again while the circuit is open keeps it from sleeping
to the end: after the length of the sleep the next call is still refused. -/
theorem not_admitted_after_clock_restart :
    ¬∀ (name : String) (config : BreakerConfig) (now : ℕ) (past : List Act)
        (ms : ℕ),
      let s := (start name config now).after past
      let t := s.act (.wait ms)
      .trial ∉ s.permits → config.sleepWindowMs ≤ ms →
        s.now + ms < UInt64.size →
          (s.breaker.circuit = .closed ∧
              (t.breaker.ask t.now).1 = some .ordinary) ∨
            (s.breaker.circuit = .opened ∧
              (t.breaker.ask t.now).1 = some .trial) := by
  intro h
  have hadmitted := h "feeds"
    { requestVolumeThreshold := 1, sleepWindowMs := 1000 } 0
    [.wait 2, .settle .ordinary .failure, .ask, .wait (UInt64.size - 2)] 1000
    (by decide) (by decide) (by decide)
  exact absurd hadmitted (by decide)

end Newsstand.Breaker.Situation
