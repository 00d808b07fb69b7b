import Newsstand.Proofs.Breaker.Settings

/-!
# How long a circuit breaker stays open

An open circuit remembers the time of its latest opening, and nothing but an
opening changes what it remembers.  It refuses calls until it has slept, and
then admits one on trial; while that one is out, it refuses all others.  A clock
that has gone back since the opening puts the end of the sleep off, however long
one waits.
-/

namespace Newsstand.Breaker.Situation

variable {s t : Situation} {a : Act}

/-! ## Openings -/

/-- The act opens the circuit. -/
def Opens (s : Situation) (a : Act) : Prop :=
  s.breaker.circuit ≠ .opened ∧ (s.act a).breaker.circuit = .opened

instance (s : Situation) (a : Act) : Decidable (s.Opens a) :=
  inferInstanceAs (Decidable (_ ∧ _))

/-- The time of the latest act that opened the circuit. -/
def lastOpening (s : Situation) : List Act → Option ℕ
  | [] => none
  | a :: past =>
      if (s.after past).Opens a then some (s.after past).now
      else s.lastOpening past

/-- A circuit that is open after an act was opened by it, or was open before
and still remembers the time. -/
theorem Transition.openedAt_cases (h : Transition s a t)
    (hopened : t.breaker.circuit = .opened) :
    (s.breaker.circuit ≠ .opened ∧ t.breaker.openedAt = s.now) ∨
      (s.breaker.circuit = .opened ∧
        t.breaker.openedAt = s.breaker.openedAt) := by
  cases h with
  | reopened hhalf => exact Or.inl ⟨by simp [hhalf], rfl⟩
  | tripped hclosed => exact Or.inl ⟨by simp [hclosed], rfl⟩
  | tried => simp at hopened
  | recovered => simp at hopened
  | admitted hclosed => exact Or.inr ⟨hopened, rfl⟩
  | refused => exact Or.inr ⟨hopened, rfl⟩
  | failed => exact Or.inr ⟨hopened, rfl⟩
  | succeeded => exact Or.inr ⟨hopened, rfl⟩
  | abandoned => exact Or.inr ⟨hopened, rfl⟩
  | unheld => exact Or.inr ⟨hopened, rfl⟩
  | waited => exact Or.inr ⟨hopened, rfl⟩

/-- An open circuit remembers the time of its latest opening. -/
theorem lastOpening_eq (name : String) (config : BreakerConfig) (now : ℕ)
    {past : List Act}
    (h : ((start name config now).after past).breaker.circuit = .opened) :
    (start name config now).lastOpening past =
      some ((start name config now).after past).breaker.openedAt := by
  induction past with
  | nil => cases h
  | cons a past ih =>
      let s := (start name config now).after past
      have hcoherent : s.Coherent :=
        (start_coherent name config now).after past
      have hcases := (hcoherent.transition a).openedAt_cases h
      rw [lastOpening, after_cons]
      rcases hcases with ⟨hbefore, htime⟩ | ⟨hbefore, htime⟩
      · rw [if_pos ⟨hbefore, h⟩, htime]
      · rw [if_neg fun hopens => hopens.1 hbefore, ih hbefore, htime]

/-- On a steady clock a circuit was opened no later than now. -/
theorem openedAt_le_now (name : String) (config : BreakerConfig) (now : ℕ)
    {past : List Act} (hsteady : (start name config now).Steady past)
    (h : ((start name config now).after past).breaker.circuit = .opened) :
    ((start name config now).after past).breaker.openedAt ≤
      ((start name config now).after past).now := by
  induction past with
  | nil => cases h
  | cons a past ih =>
      obtain ⟨hpast, hnow⟩ := hsteady
      let s := (start name config now).after past
      have hcoherent : s.Coherent :=
        (start_coherent name config now).after past
      have hcases := (hcoherent.transition a).openedAt_cases h
      rw [after_cons] at hnow ⊢
      rcases hcases with ⟨-, htime⟩ | ⟨hbefore, htime⟩
      · rw [htime]
        exact hnow
      · rw [htime]
        exact (ih hpast hbefore).trans hnow

/-! ## Refusing -/

/-- Before an open circuit has slept, a call is refused and nothing else
happens. -/
theorem act_ask_of_asleep (h : s.breaker.circuit = .opened)
    (hasleep : ¬s.breaker.hasSlept s.now) :
    (s.breaker.ask s.now).1 = none ∧
      s.act .ask = { s with breaker := s.breaker.refuse } := by
  have hask := ask_of_asleep h hasleep
  exact ⟨congrArg Prod.fst hask, act_ask_of_none hask⟩

/-- While a trial is out, a call is refused and nothing else happens. -/
theorem act_ask_of_halfOpen (h : s.breaker.circuit = .halfOpen) :
    (s.breaker.ask s.now).1 = none ∧
      s.act .ask = { s with breaker := s.breaker.refuse } := by
  have hask := ask_of_halfOpen h s.now
  exact ⟨congrArg Prod.fst hask, act_ask_of_none hask⟩

/-- Once an open circuit has slept, a call is admitted on trial. -/
theorem act_ask_of_slept (h : s.breaker.circuit = .opened)
    (hslept : s.breaker.hasSlept s.now) :
    (s.breaker.ask s.now).1 = some .trial ∧
      s.act .ask =
        { s with
          breaker := { s.breaker with circuit := .halfOpen }
          permits := .trial ::ₘ s.permits } := by
  have hask := ask_of_slept h hslept
  exact ⟨congrArg Prod.fst hask, act_ask_of_some hask⟩

/-! ## Stale calls -/

/-- An ordinary permit is settled, or time passes. -/
inductive Stale : Act → Prop
  | settle (outcome : Outcome) : Stale (.settle .ordinary outcome)
  | wait (ms : ℕ) : Stale (.wait ms)

/-- A circuit that is not closed takes no notice of ordinary calls that end. -/
theorem Transition.stale (h : Transition s a t) (hstale : Stale a)
    (hnot : s.breaker.circuit ≠ .closed) :
    t.breaker.circuit = s.breaker.circuit ∧
      t.breaker.openedAt = s.breaker.openedAt := by
  cases h with
  | tripped hclosed => exact absurd hclosed hnot
  | failed => exact ⟨rfl, rfl⟩
  | succeeded => exact ⟨rfl, rfl⟩
  | abandoned => exact ⟨rfl, rfl⟩
  | unheld => exact ⟨rfl, rfl⟩
  | waited => exact ⟨rfl, rfl⟩
  | _ => cases hstale

/-- However many ordinary calls end while a circuit is not closed, it stays as
it is and remembers the time of its opening. -/
theorem Coherent.after_stale (h : s.Coherent)
    (hnot : s.breaker.circuit ≠ .closed) {acts : List Act}
    (hstale : ∀ a ∈ acts, Stale a) :
    (s.after acts).breaker.circuit = s.breaker.circuit ∧
      (s.after acts).breaker.openedAt = s.breaker.openedAt := by
  induction acts with
  | nil => exact ⟨rfl, rfl⟩
  | cons a acts ih =>
      rw [List.forall_mem_cons] at hstale
      obtain ⟨hcircuit, htime⟩ := ih hstale.2
      have htransition := (h.after acts).transition a
      obtain ⟨hcircuit', htime'⟩ :=
        htransition.stale hstale.1 (hcircuit ▸ hnot)
      exact ⟨hcircuit'.trans hcircuit, htime'.trans htime⟩

/-! ## The sleep -/

/-- On a steady clock, an open circuit has been so since the time that it
remembers, and refuses calls until it has slept from then on; the next one is
admitted on trial, and all others are refused while that one is out.  What is
settled of the calls from before does not matter. -/
theorem sleeps_from_lastOpening (name : String) (config : BreakerConfig)
    (now : ℕ) (past : List Act)
    (hsteady : (start name config now).Steady past) :
    let s := (start name config now).after past
    (s.breaker.circuit = .opened →
      (start name config now).lastOpening past = some s.breaker.openedAt ∧
      (s.now < s.breaker.openedAt + config.sleepWindowMs →
        (s.breaker.ask s.now).1 = none ∧
          s.act .ask = { s with breaker :=
            { s.breaker with refused := s.breaker.refused + 1 } }) ∧
      (s.breaker.openedAt + config.sleepWindowMs ≤ s.now →
        (s.breaker.ask s.now).1 = some .trial ∧
          (s.act .ask).breaker.circuit = .halfOpen)) ∧
    (s.breaker.circuit = .halfOpen →
      (s.breaker.ask s.now).1 = none ∧
        s.act .ask = { s with breaker :=
          { s.breaker with refused := s.breaker.refused + 1 } }) ∧
    (s.breaker.circuit ≠ .closed → ∀ acts : List Act,
      (∀ a ∈ acts, Stale a) →
        (s.after acts).breaker.circuit = s.breaker.circuit ∧
          (s.after acts).breaker.openedAt = s.breaker.openedAt) := by
  intro s
  have hcoherent : s.Coherent := (start_coherent name config now).after past
  have hsleep : s.breaker.sleepMs = config.sleepWindowMs :=
    (start_follows name config now past).sleepMs_eq
  refine ⟨fun hopened => ⟨lastOpening_eq name config now hopened, ?_, ?_⟩,
    act_ask_of_halfOpen, fun hnot acts => hcoherent.after_stale hnot⟩
  · intro hasleep
    have hle : s.breaker.openedAt ≤ s.now :=
      openedAt_le_now name config now hsteady hopened
    apply act_ask_of_asleep hopened
    simp only [hasSlept, decide_eq_true_eq, hsleep]
    omega
  · intro hslept
    have htried := act_ask_of_slept hopened (by
      simp only [hasSlept, decide_eq_true_eq, hsleep]
      omega)
    exact ⟨htried.1, by rw [htried.2]⟩

/-- Opened after 5 milliseconds, a circuit is asleep after 1004, although
another failure has come in between and one more call is given up. -/
theorem sleeps_from_lastOpening_past_stale_failure :
    let new := start "feeds"
      { requestVolumeThreshold := 1, sleepWindowMs := 1000 } 0
    let past : List Act :=
      [.wait 600, .settle .ordinary .failure, .wait 399,
        .settle .ordinary .failure, .wait 5, .ask, .ask, .ask]
    let s := new.after past
    new.Steady past ∧ s.breaker.circuit = .opened ∧
      s.breaker.openedAt = 5 ∧ new.lastOpening past = some s.breaker.openedAt ∧
      (s.breaker.ask s.now).1 = none ∧
      (s.after [.settle .ordinary .abandoned]).breaker.openedAt =
        s.breaker.openedAt := by
  have hsteady := steady_of_waited_lt
    (start "feeds" { requestVolumeThreshold := 1, sleepWindowMs := 1000 } 0)
    [.wait 600, .settle .ordinary .failure, .wait 399,
      .settle .ordinary .failure, .wait 5, .ask, .ask, .ask] (by decide)
  obtain ⟨hopen, -, hstale⟩ := sleeps_from_lastOpening _ _ _ _ hsteady
  obtain ⟨hlast, hasleep, -⟩ := hopen (by decide)
  exact ⟨hsteady, by decide, by decide, hlast, (hasleep (by decide)).1,
    (hstale (by decide) [.settle .ordinary .abandoned]
      (by simp [Stale.settle])).2⟩

end Newsstand.Breaker.Situation
