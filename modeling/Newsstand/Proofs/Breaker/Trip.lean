import Newsstand.Proofs.Breaker.Ledger
import Newsstand.Proofs.Breaker.Settings

/-!
# When a circuit breaker opens

The ledger of a history holds the ends of all ordinary calls since the last
successful trial, whatever the state of the circuit was when they ended.  A
window keeps this ledger, so a closed circuit opens exactly at a failure with
which the recent part of the ledger becomes alarming.

A success never opens a circuit.  A closed one may therefore be left closed
with an alarming window, but only by a success.
-/

namespace Newsstand.Breaker.Situation

open Ledger

variable {s t : Situation} {a : Act}

/-! ## The ledger of a history -/

/-- The entry that an act makes: the end of an ordinary call, unless the call is
abandoned. -/
def entryOf (s : Situation) : Act → Option Entry
  | .settle .ordinary .success =>
      if .ordinary ∈ s.permits then some ⟨s.now, true⟩ else none
  | .settle .ordinary .failure =>
      if .ordinary ∈ s.permits then some ⟨s.now, false⟩ else none
  | _ => none

/-- The act is the success of a trial. -/
def Recovers (s : Situation) (a : Act) : Prop :=
  a = .settle .trial .success ∧ .trial ∈ s.permits

instance (s : Situation) (a : Act) : Decidable (s.Recovers a) :=
  inferInstanceAs (Decidable (_ ∧ _))

/-- The ledger after an act.  A successful trial begins a new one. -/
def enter (s : Situation) (a : Act) (ledger : List Entry) : List Entry :=
  if s.Recovers a then [] else (s.entryOf a).toList ++ ledger

/-- The entries since the last successful trial, or since the start, from the
latest to the first. -/
def ledger (s : Situation) : List Act → List Entry
  | [] => []
  | a :: past => (s.after past).enter a (s.ledger past)

/-- All entries that some acts make. -/
def entries (s : Situation) : List Act → List Entry
  | [] => []
  | a :: past => ((s.after past).entryOf a).toList ++ s.entries past

theorem enter_of_not_mem {permit : Permit} (hheld : permit ∉ s.permits)
    (outcome : Outcome) (ledger : List Entry) :
    s.enter (.settle permit outcome) ledger = ledger := by
  cases permit <;> cases outcome <;> simp [enter, Recovers, entryOf, hheld]

/-- A window that keeps a ledger keeps the one after the act. -/
theorem Transition.keeps {ledger : List Entry} (h : Transition s a t)
    (hs : s.breaker.window.Keeps s.now ledger) (hnow : s.now ≤ t.now) :
    t.breaker.window.Keeps t.now (s.enter a ledger) := by
  cases h with
  | recovered hhalf hheld =>
      simp only [enter, Recovers, hheld, and_self, if_true]
      exact Window.keeps_nil rfl s.now
  | tripped hclosed hheld =>
      simpa [enter, Recovers, entryOf, hheld] using hs.record false
  | failed hheld =>
      simpa [enter, Recovers, entryOf, hheld] using hs.record false
  | succeeded hheld =>
      simpa [enter, Recovers, entryOf, hheld] using hs.record true
  | unheld hheld =>
      rw [enter_of_not_mem hheld]
      exact hs
  | waited ms => simpa [enter, Recovers, entryOf] using hs.mono hnow
  | reopened hhalf hheld houtcome =>
      simpa [enter, Recovers, entryOf, houtcome] using hs
  | admitted => simpa [enter, Recovers, entryOf] using hs
  | tried => simpa [enter, Recovers, entryOf] using hs
  | refused => simpa [enter, Recovers, entryOf] using hs
  | abandoned => simpa [enter, Recovers, entryOf] using hs

/-- On a steady clock the window of a breaker keeps the ledger of its history.
-/
theorem start_keeps (name : String) (config : BreakerConfig) (now : ℕ)
    {past : List Act} (hsteady : (start name config now).Steady past) :
    let s := (start name config now).after past
    s.breaker.window.Keeps s.now ((start name config now).ledger past) := by
  induction past with
  | nil => exact Window.keeps_nil rfl now
  | cons a past ih =>
      obtain ⟨hpast, hnow⟩ := hsteady
      have hcoherent := (start_coherent name config now).after past
      exact (hcoherent.transition a).keeps (ih hpast) hnow

/-- A ledger grows by no more than the entries that are made. -/
theorem length_ledger_append (s : Situation) (later earlier : List Act) :
    (s.ledger (later ++ earlier)).length ≤
      ((s.after earlier).entries later).length + (s.ledger earlier).length := by
  induction later with
  | nil => simp [entries]
  | cons a later ih =>
      rw [List.cons_append, ledger, entries, after_append, enter]
      split
      · simp
      · rw [List.length_append, List.length_append]
        omega

/-! ## Opening -/

/-- Only a failure opens a closed circuit, and only when the window with it is
alarming. -/
theorem Coherent.opens_iff (h : s.Coherent) (a : Act) :
    s.breaker.circuit = .closed ∧ (s.act a).breaker.circuit = .opened ↔
      a = .settle .ordinary .failure ∧ .ordinary ∈ s.permits ∧
        s.breaker.circuit = .closed ∧
        (s.breaker.count s.now false).exceeds s.now := by
  have htransition := h.transition a
  generalize s.act a = t at htransition
  cases htransition with
  | unheld hheld =>
      constructor
      · rintro ⟨hclosed, hopened⟩
        simp [hclosed] at hopened
      · rintro ⟨heq, hmem, -⟩
        cases heq
        exact absurd hmem hheld
  | _ => simp_all

/-- With an outcome in it the window exceeds its limits exactly when the recent
part of the ledger with its entry is alarming. -/
theorem start_exceeds_iff (name : String) (config : BreakerConfig) (now : ℕ)
    {past : List Act} (hsteady : (start name config now).Steady past)
    (success : Bool) :
    let s := (start name config now).after past
    let recent := recent config.sliceWidth config.sliceCount s.now
      (⟨s.now, success⟩ :: (start name config now).ledger past)
    (s.breaker.count s.now success).exceeds s.now ↔
      config.Alarming recent.length (failures recent) := by
  intro s recent
  have hfollows := (start_follows name config now past).count s.now success
  have hkeeps := (start_keeps name config now hsteady).record success
  have htotal := hkeeps.total_eq s.now le_rfl
  have hfailures := hkeeps.failures_eq s.now le_rfl
  have hwidth := hfollows.width_eq
  have hcount := hfollows.count_eq
  rw [count_window] at hwidth hcount
  rw [hwidth, hcount] at htotal hfailures
  rw [hfollows.exceeds_iff, count_window, htotal, hfailures]

/-- On a steady clock a closed circuit opens exactly at a failure with which the
recent part of the ledger is alarming. -/
theorem start_opens_iff (name : String) (config : BreakerConfig) (now : ℕ)
    {past : List Act} (hsteady : (start name config now).Steady past)
    (a : Act) :
    let s := (start name config now).after past
    let recent := recent config.sliceWidth config.sliceCount s.now
      ((start name config now).ledger (a :: past))
    s.breaker.circuit = .closed ∧ (s.act a).breaker.circuit = .opened ↔
      a = .settle .ordinary .failure ∧ .ordinary ∈ s.permits ∧
        s.breaker.circuit = .closed ∧
        config.Alarming recent.length (failures recent) := by
  intro s recent
  have hcoherent : s.Coherent := (start_coherent name config now).after past
  rw [hcoherent.opens_iff]
  refine and_congr_right fun hfailure => and_congr_right fun hheld =>
    and_congr_right fun _ => ?_
  have hledger : (start name config now).ledger (a :: past) =
      ⟨s.now, false⟩ :: (start name config now).ledger past := by
    simp [ledger, enter, Recovers, entryOf, hfailure, hheld, s]
  have hrecent : recent = Ledger.recent config.sliceWidth config.sliceCount
      s.now (⟨s.now, false⟩ :: (start name config now).ledger past) :=
    congrArg _ hledger
  rw [hrecent]
  exact start_exceeds_iff name config now hsteady false

/-- A ledger that begins with a successful trial has no entries from before. -/
theorem length_ledger_le_of_recovered (s : Situation) (later : List Act)
    {earlier : List Act} (htrial : .trial ∈ (s.after earlier).permits) :
    (s.ledger (later ++ .settle .trial .success :: earlier)).length ≤
      ((s.after (.settle .trial .success :: earlier)).entries
        later).length := by
  have hnone : s.ledger (.settle .trial .success :: earlier) = [] := by
    simp [ledger, enter, Recovers, htrial]
  have hlength :=
    length_ledger_append s later (.settle .trial .success :: earlier)
  rwa [hnone, List.length_nil, Nat.add_zero] at hlength

/-- A closed circuit opens exactly at the failure of an ordinary call with which
the recent part of the ledger is alarming.  After a successful trial this takes
at least as many ordinary calls as the configuration demands. -/
theorem opens_iff_ledger_alarming (name : String) (config : BreakerConfig)
    (now : ℕ) (past : List Act) (a : Act)
    (hclock : now + waited (a :: past) < 2 ^ 63) :
    let new := start name config now
    let s := new.after past
    let recent := recent config.sliceWidth config.sliceCount s.now
      (new.ledger (a :: past))
    (s.breaker.circuit = .closed ∧ (s.act a).breaker.circuit = .opened ↔
      a = .settle .ordinary .failure ∧ .ordinary ∈ s.permits ∧
        s.breaker.circuit = .closed ∧
        config.Alarming recent.length (failures recent)) ∧
    ∀ later earlier, past = later ++ .settle .trial .success :: earlier →
      .trial ∈ (new.after earlier).permits →
      s.breaker.circuit = .closed → (s.act a).breaker.circuit = .opened →
      max 1 config.requestVolumeThreshold ≤
        ((new.after (.settle .trial .success :: earlier)).entries
          (a :: later)).length := by
  intro new s recent
  have hsteady : new.Steady past := by
    have hle := waited_le_cons a past
    have hnow : new.now = now := rfl
    have hsize : 2 ^ 63 < UInt64.size := by decide
    exact steady_of_waited_lt new past (by omega)
  have hiff := start_opens_iff name config now hsteady a
  refine ⟨hiff, ?_⟩
  intro later earlier hpast htrial hclosed hopened
  have halarming : config.Alarming recent.length (failures recent) :=
    (hiff.mp ⟨hclosed, hopened⟩).2.2.2
  calc
    max 1 config.requestVolumeThreshold ≤ recent.length := halarming.1
    _ ≤ (new.ledger (a :: past)).length := List.length_filter_le _ _
    _ = (new.ledger
          ((a :: later) ++ .settle .trial .success :: earlier)).length := by
      rw [hpast, List.cons_append]
    _ ≤ ((new.after (.settle .trial .success :: earlier)).entries
          (a :: later)).length :=
      length_ledger_le_of_recovered new (a :: later) htrial

/-- Two calls fail and open the circuit, and two others are still out when a
trial is admitted. -/
def twoOutstanding : List Act :=
  [.ask, .wait 1000, .settle .ordinary .failure, .settle .ordinary .failure,
    .ask, .ask, .ask, .ask]

/-- Where two calls are enough, two that were admitted before a successful trial
open the circuit again. -/
theorem opens_again_by_outstanding_failures :
    let new := start "feeds"
      { requestVolumeThreshold := 2, sleepWindowMs := 1000 } 0
    let later : List Act := [.wait 500, .settle .ordinary .failure]
    let past := later ++ .settle .trial .success :: twoOutstanding
    0 + waited (.settle .ordinary .failure :: past) < 2 ^ 63 ∧
      .trial ∈ (new.after twoOutstanding).permits ∧
      ((new.after past).breaker.circuit = .closed ∧
        ((new.after past).act (.settle .ordinary .failure)).breaker.circuit =
          .opened) ∧
      2 ≤ ((new.after (.settle .trial .success :: twoOutstanding)).entries
        (.settle .ordinary .failure :: later)).length := by
  have hlaw := opens_iff_ledger_alarming "feeds"
    { requestVolumeThreshold := 2, sleepWindowMs := 1000 } 0
    ([.wait 500, .settle .ordinary .failure] ++
      .settle .trial .success :: twoOutstanding)
    (.settle .ordinary .failure) (by decide)
  have hopens := hlaw.1.mpr (by decide)
  exact ⟨by decide, by decide, hopens,
    hlaw.2 [.wait 500, .settle .ordinary .failure] twoOutstanding rfl
      (by decide) hopens.1 hopens.2⟩

/-! ## Staying closed -/

/-- No failure leaves a circuit closed with a window that exceeds its limits. -/
theorem Coherent.not_exceeds_of_failure (h : s.Coherent)
    (hheld : .ordinary ∈ s.permits)
    (hclosed :
      (s.act (.settle .ordinary .failure)).breaker.circuit = .closed) :
    ¬(s.act (.settle .ordinary .failure)).breaker.exceeds s.now := by
  have htransition := h.transition (.settle .ordinary .failure)
  generalize s.act (.settle .ordinary .failure) = t at htransition hclosed ⊢
  cases htransition with
  | tripped => simp at hclosed
  | failed _ hbelow => exact hbelow hclosed
  | unheld hnone => exact absurd hheld hnone

/-- A circuit is left closed with an alarming window by no failure, and by a
success exactly when it was closed before and the window with the success in it
is alarming.  Where only a whole of failures is alarming this cannot be.  On a
steady clock the success adds one call, and no failure, to what counts. -/
theorem left_closed_alarming_iff (name : String) (config : BreakerConfig)
    (now : ℕ) (past : List Act) {outcome : Outcome}
    (houtcome : outcome ≠ .abandoned)
    (hheld : .ordinary ∈ ((start name config now).after past).permits) :
    let s := (start name config now).after past
    let t := s.act (.settle .ordinary outcome)
    let w := s.breaker.window.record s.now true
    (t.breaker.circuit = .closed ∧
        config.Alarming (t.breaker.window.total t.now)
          (t.breaker.window.failures t.now) ↔
      outcome = .success ∧ s.breaker.circuit = .closed ∧
        config.errorThresholdPercent < 100 ∧
        config.Alarming (w.total s.now) (w.failures s.now)) ∧
    ((start name config now).Steady past →
      w.total s.now = s.breaker.window.total s.now + 1 ∧
        w.failures s.now = s.breaker.window.failures s.now) := by
  intro s t w
  have hcoherent : s.Coherent := (start_coherent name config now).after past
  have hfollows : t.breaker.Follows config :=
    (hcoherent.transition _).follows (start_follows name config now past)
  have hnow : t.now = s.now := settle_now s _ _
  refine ⟨?_, fun hsteady => ?_⟩
  · rw [hnow]
    cases outcome with
    | abandoned => exact absurd rfl houtcome
    | failure =>
        constructor
        · rintro ⟨hclosed, halarming⟩
          have hexceeds := (hfollows.exceeds_iff s.now).mpr halarming
          exact absurd hexceeds
            (hcoherent.not_exceeds_of_failure hheld hclosed)
        · rintro ⟨hsuccess, -⟩
          cases hsuccess
    | success =>
        have hact : t.breaker = s.breaker.count s.now true :=
          congrArg breaker (act_settle_of_mem hheld .success)
        rw [hact, count_circuit, count_window]
        constructor
        · rintro ⟨hclosed, halarming⟩
          have hlt := s.breaker.window.failures_lt_total_record s.now
          exact ⟨rfl, hclosed, halarming.errorThresholdPercent_lt hlt,
            halarming⟩
        · rintro ⟨-, hclosed, -, halarming⟩
          exact ⟨hclosed, halarming⟩
  · have hkeeps := start_keeps name config now hsteady
    exact ⟨hkeeps.total_record true, hkeeps.failures_record true⟩

/-- One failure and one success, where two calls are enough. -/
theorem left_closed_alarming_at_volume :
    let config : BreakerConfig := { requestVolumeThreshold := 2 }
    let s := (start "feeds" config 0).after
      [.settle .ordinary .failure, .ask, .ask]
    let t := s.act (.settle .ordinary .success)
    Outcome.success ≠ .abandoned ∧ .ordinary ∈ s.permits ∧
      t.breaker.circuit = .closed ∧
      config.Alarming (t.breaker.window.total t.now)
        (t.breaker.window.failures t.now) :=
  ⟨by decide, by decide,
    (left_closed_alarming_iff "feeds" { requestVolumeThreshold := 2 } 0
      [.settle .ordinary .failure, .ask, .ask] (by decide) (by decide)).1.mpr
        ⟨rfl, by decide, by decide, by decide⟩⟩

end Newsstand.Breaker.Situation
