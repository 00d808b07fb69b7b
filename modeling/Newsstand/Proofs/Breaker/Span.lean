import Mathlib.Algebra.Order.Floor.Div
import Newsstand.Proofs.Breaker.Trip

/-!
# The span of a rolling window

A window counts whole slices, the one that is going on among them, so how long
an outcome counts depends on where in its slice it lies: for the length of all
slices but one at least, and for less than the length of all slices.  The width
of a slice is a quotient that is rounded down, and one millisecond where this
would be nothing.  All slices together are therefore never longer than the
configured time, unless there are more slices than milliseconds.
-/

namespace Newsstand

namespace BreakerConfig

theorem sliceCount_pos (config : BreakerConfig) : 0 < config.sliceCount :=
  Nat.le_max_left 1 _

theorem sliceWidth_pos (config : BreakerConfig) : 0 < config.sliceWidth :=
  Nat.le_max_left 1 _

theorem sliceWidth_of_lt {config : BreakerConfig}
    (h : config.rollingWindowMs < config.sliceCount) :
    config.sliceWidth = 1 := by
  rw [sliceWidth, Nat.div_eq_of_lt h]
  rfl

theorem sliceWidth_of_le {config : BreakerConfig}
    (h : config.sliceCount ≤ config.rollingWindowMs) :
    config.sliceWidth = config.rollingWindowMs / config.sliceCount :=
  Nat.max_eq_right (Nat.div_pos h config.sliceCount_pos)

/-- All slices together are no longer than the configured time, or they have
one millisecond each. -/
theorem sliceCount_mul_sliceWidth_le (config : BreakerConfig) :
    config.sliceCount * config.sliceWidth ≤
      max config.rollingWindowMs config.sliceCount := by
  by_cases hfew : config.sliceCount ≤ config.rollingWindowMs
  · rw [sliceWidth_of_le hfew]
    exact (Nat.mul_div_le _ _).trans (Nat.le_max_left _ _)
  · rw [sliceWidth_of_lt (Nat.lt_of_not_le hfew), Nat.mul_one]
    exact Nat.le_max_right _ _

/-- Where rounding loses no more than a millisecond in all, the slices but one
are as long as the configured time less one slice. -/
theorem sub_ceilDiv_le {config : BreakerConfig}
    (h : config.rollingWindowMs < config.sliceCount ∨
      config.rollingWindowMs % config.sliceCount ≤ 1) :
    config.rollingWindowMs - config.rollingWindowMs ⌈/⌉ config.sliceCount ≤
      (config.sliceCount - 1) * config.sliceWidth := by
  have hcount := config.sliceCount_pos
  have hcover : config.rollingWindowMs ≤ config.sliceCount *
      (config.rollingWindowMs ⌈/⌉ config.sliceCount) :=
    (ceilDiv_le_iff_le_mul hcount).mp le_rfl
  generalize config.rollingWindowMs ⌈/⌉ config.sliceCount = up at hcover ⊢
  by_cases hfew : config.sliceCount ≤ config.rollingWindowMs
  · have hone : config.rollingWindowMs % config.sliceCount ≤ 1 := by
      rcases h with hmany | hone
      · exact absurd hfew (Nat.not_le.mpr hmany)
      · exact hone
    rw [sliceWidth_of_le hfew]
    have hsplit :=
      Nat.div_add_mod config.rollingWindowMs config.sliceCount
    generalize config.rollingWindowMs / config.sliceCount = down at hsplit ⊢
    -- The quotient that is rounded up is larger by the rest of the division.
    have hup : down + config.rollingWindowMs % config.sliceCount ≤ up := by
      rcases Nat.eq_zero_or_pos (config.rollingWindowMs % config.sliceCount)
        with hexact | hrest
      · have hle : down ≤ up :=
          Nat.le_of_mul_le_mul_left (by omega) hcount
        omega
      · have hlt : down < up :=
          Nat.lt_of_mul_lt_mul_left (a := config.sliceCount) (by omega)
        omega
    rw [Nat.sub_mul, Nat.one_mul]
    omega
  · have hmany := Nat.lt_of_not_le hfew
    have hpos : config.rollingWindowMs = 0 ∨ 1 ≤ up := by
      rcases Nat.eq_zero_or_pos up with hzero | hpos
      · rw [hzero, Nat.mul_zero] at hcover
        exact Or.inl (Nat.le_zero.mp hcover)
      · exact Or.inr hpos
    rw [sliceWidth_of_lt hmany, Nat.mul_one]
    omega

end BreakerConfig

namespace Ledger

variable {width count now : ℕ} {e : Entry} {ledger : List Entry}

/-- For the length of all slices but one an entry is recent. -/
theorem mem_recent_of_le (hwidth : 0 < width) (hcount : 0 < count)
    (he : e ∈ ledger) (hnow : now ≤ e.time + (count - 1) * width) :
    e ∈ recent width count now ledger := by
  have hslice : now / width ≤ e.time / width + (count - 1) := by
    rw [← Nat.add_mul_div_right _ _ hwidth]
    exact Nat.div_le_div_right hnow
  refine List.mem_filter.mpr ⟨he, ?_⟩
  rw [decide_eq_true_eq]
  omega

/-- After the length of all slices no entry is recent. -/
theorem not_mem_recent_of_le (hwidth : 0 < width)
    (hnow : e.time + count * width ≤ now) :
    e ∉ recent width count now ledger := by
  have hslice : e.time / width + count ≤ now / width := by
    rw [← Nat.add_mul_div_right _ _ hwidth]
    exact Nat.div_le_div_right hnow
  intro hmem
  have hrecent := (List.mem_filter.mp hmem).2
  rw [decide_eq_true_eq] at hrecent
  omega

end Ledger

namespace Breaker.Situation

open Ledger

/-- The time of an entry is the time of its act. -/
theorem time_of_mem_enter {s : Situation} {a : Act} {e : Entry}
    {ledger : List Entry} (he : e ∈ s.enter a ledger) :
    e.time = s.now ∨ e ∈ ledger := by
  unfold enter at he
  split at he
  · cases he
  · rcases List.mem_append.mp he with hnew | hold
    · left
      rw [Option.mem_toList] at hnew
      unfold entryOf at hnew
      split at hnew
      · split at hnew <;> simp_all [eq_comm]
      · split at hnew <;> simp_all [eq_comm]
      · cases hnew
    · exact Or.inr hold

/-- On a steady clock nothing stands in a ledger that is still to come. -/
theorem time_le_now (s : Situation) {past : List Act} (hsteady : s.Steady past)
    {e : Entry} (he : e ∈ s.ledger past) : e.time ≤ (s.after past).now := by
  induction past with
  | nil => cases he
  | cons a past ih =>
      obtain ⟨hpast, hnow⟩ := hsteady
      rcases time_of_mem_enter he with htime | hold
      · rw [htime]
        exact hnow
      · exact (ih hpast hold).trans hnow

/-- On a steady clock a window counts those entries of the ledger that are
recent.  An entry is not recent any more once the configured time has passed
since, or a millisecond for each slice if there are more slices; and it is
recent for the length of all slices but one, which is the configured time less
one slice unless rounding loses more than a millisecond of it. -/
theorem counts_rolling_span (name : String) (config : BreakerConfig)
    (now : ℕ) {past : List Act}
    (hsteady : (start name config now).Steady past) :
    let new := start name config now
    let s := new.after past
    let counted :=
      recent config.sliceWidth config.sliceCount s.now (new.ledger past)
    s.breaker.window.total s.now = counted.length ∧
    s.breaker.window.failures s.now = failures counted ∧
    ∀ e ∈ new.ledger past, e.time ≤ s.now ∧
      (e.time + max config.rollingWindowMs config.sliceCount ≤ s.now →
        e ∉ counted) ∧
      (s.now - e.time ≤ (config.sliceCount - 1) * config.sliceWidth →
        e ∈ counted) ∧
      (config.rollingWindowMs < config.sliceCount ∨
          config.rollingWindowMs % config.sliceCount ≤ 1 →
        s.now - e.time ≤ config.rollingWindowMs -
          config.rollingWindowMs ⌈/⌉ config.sliceCount → e ∈ counted) := by
  intro new s counted
  have hfollows := start_follows name config now past
  have hkeeps := start_keeps name config now hsteady
  have htotal := hkeeps.total_eq s.now le_rfl
  have hfailures := hkeeps.failures_eq s.now le_rfl
  rw [hfollows.width_eq, hfollows.count_eq] at htotal hfailures
  refine ⟨htotal, hfailures, ?_⟩
  intro e he
  have hstays (hnow :
      s.now - e.time ≤ (config.sliceCount - 1) * config.sliceWidth) :
      e ∈ counted :=
    mem_recent_of_le config.sliceWidth_pos config.sliceCount_pos he
      (Nat.sub_le_iff_le_add'.mp hnow)
  refine ⟨time_le_now new hsteady he, ?_, hstays, ?_⟩
  · intro hgone
    have hspan := config.sliceCount_mul_sliceWidth_le
    exact not_mem_recent_of_le config.sliceWidth_pos (by omega)
  · intro hexact hnow
    exact hstays (hnow.trans (BreakerConfig.sub_ceilDiv_le hexact))

/-- In ten slices of three milliseconds, a failure at the end of a slice counts
for 27 milliseconds and not for 30. -/
theorem counts_rolling_span_of_thirty :
    let config : BreakerConfig := { rollingWindowMs := 30 }
    let new := start "feeds" config 0
    let past (ms : ℕ) : List Act :=
      [.wait ms, .settle .ordinary .failure, .wait 2, .ask]
    let counted (ms : ℕ) := recent config.sliceWidth config.sliceCount
      (new.after (past ms)).now (new.ledger (past ms))
    (∀ ms ≤ 30, new.Steady (past ms)) ∧
      (⟨2, false⟩ : Entry) ∈ counted 27 ∧ (⟨2, false⟩ : Entry) ∉ counted 30 := by
  intro config new past counted
  have hsteady (ms : ℕ) (hms : ms ≤ 30) : new.Steady (past ms) := by
    apply steady_of_waited_lt
    have hsize : 32 < UInt64.size := by decide
    have hwaited : new.now + waited (past ms) = 2 + ms := by
      simp [past, waited, new, start]
    omega
  obtain ⟨-, -, hstays⟩ :=
    counts_rolling_span "feeds" config 0 (hsteady 27 (by decide))
  obtain ⟨-, -, hgone⟩ :=
    counts_rolling_span "feeds" config 0 (hsteady 30 (by decide))
  exact ⟨hsteady, (hstays ⟨2, false⟩ (by decide)).2.2.2 (by decide) (by decide),
    (hgone ⟨2, false⟩ (by decide)).2.1 (by decide)⟩

/-- With more slices than milliseconds an outcome counts for longer than the
configured time; and where the quotient is rounded, it may count for less than
that time without a slice. -/
theorem span_differs_from_configured :
    let tiny : BreakerConfig := { rollingWindowMs := 1 }
    let rounded : BreakerConfig := { rollingWindowMs := 19 }
    let past (ms : ℕ) : List Act :=
      [.wait ms, .settle .ordinary .failure, .ask]
    let new (config : BreakerConfig) := start "feeds" config 0
    ((new tiny).Steady (past 1) ∧
      (new tiny).ledger (past 1) = [⟨0, false⟩] ∧
      0 + tiny.rollingWindowMs ≤ ((new tiny).after (past 1)).now ∧
      ((new tiny).after (past 1)).breaker.window.total
        ((new tiny).after (past 1)).now = 1) ∧
    ((new rounded).Steady (past 10) ∧
      (new rounded).ledger (past 10) = [⟨0, false⟩] ∧
      ((new rounded).after (past 10)).now - 0 ≤ rounded.rollingWindowMs -
        rounded.rollingWindowMs ⌈/⌉ rounded.windowBuckets ∧
      ((new rounded).after (past 10)).breaker.window.total
        ((new rounded).after (past 10)).now = 0) := by
  refine ⟨⟨?_, by decide, by decide, by decide⟩,
    ⟨?_, by decide, by decide, by decide⟩⟩
  · exact steady_of_waited_lt _ _ (by decide)
  · exact steady_of_waited_lt _ _ (by decide)

end Breaker.Situation

end Newsstand
