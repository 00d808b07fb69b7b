import Newsstand.Proofs.Breaker.Transition

/-!
# The settings of a circuit breaker

A breaker is made from a configuration and follows it ever after: no act
changes its limits, the length of its sleep, or the slices of its window.
-/

namespace Newsstand

namespace BreakerConfig

/-- The number of slices that count. -/
def sliceCount (config : BreakerConfig) : ℕ :=
  max 1 config.windowBuckets

/-- The width of a slice. -/
def sliceWidth (config : BreakerConfig) : ℕ :=
  max 1 (config.rollingWindowMs / config.sliceCount)

/-- So many calls, and so many failures among them, that the circuit has to be
open. -/
def Alarming (config : BreakerConfig) (total failures : ℕ) : Prop :=
  max 1 config.requestVolumeThreshold ≤ total ∧
    min 100 config.errorThresholdPercent * total ≤ failures * 100

instance (config : BreakerConfig) (total failures : ℕ) :
    Decidable (config.Alarming total failures) :=
  inferInstanceAs (Decidable (_ ∧ _))

/-- Where only a whole of failures is alarming, no number of calls is that has
a success among them. -/
theorem Alarming.errorThresholdPercent_lt {config : BreakerConfig}
    {total failures : ℕ} (h : config.Alarming total failures)
    (hlt : failures < total) : config.errorThresholdPercent < 100 := by
  by_contra hwhole
  have hmin : min 100 config.errorThresholdPercent = 100 := by omega
  have hshare := h.2
  rw [hmin] at hshare
  omega

end BreakerConfig

namespace Breaker

/-- The breaker has the settings of a configuration. -/
structure Follows (b : Breaker) (config : BreakerConfig) : Prop where
  errorPercent_eq : b.errorPercent = min 100 config.errorThresholdPercent
  volume_eq : b.volume = max 1 config.requestVolumeThreshold
  sleepMs_eq : b.sleepMs = config.sleepWindowMs
  count_eq : b.window.count = config.sliceCount
  width_eq : b.window.width = config.sliceWidth

theorem Follows.exceeds_iff {b : Breaker} {config : BreakerConfig}
    (h : b.Follows config) (now : ℕ) :
    b.exceeds now ↔
      config.Alarming (b.window.total now) (b.window.failures now) := by
  simp only [exceeds, BreakerConfig.Alarming, Bool.and_eq_true,
    decide_eq_true_eq, h.errorPercent_eq, h.volume_eq]

theorem Follows.count {b : Breaker} {config : BreakerConfig}
    (h : b.Follows config) (now : ℕ) (success : Bool) :
    (b.count now success).Follows config :=
  ⟨h.errorPercent_eq, h.volume_eq, h.sleepMs_eq, h.count_eq, h.width_eq⟩

namespace Situation

theorem Transition.follows {s t : Situation} {a : Act}
    {config : BreakerConfig} (h : Transition s a t)
    (hs : s.breaker.Follows config) : t.breaker.Follows config := by
  obtain ⟨hpercent, hvolume, hsleep, hcount, hwidth⟩ := hs
  cases h <;> exact ⟨hpercent, hvolume, hsleep, hcount, hwidth⟩

theorem start_follows (name : String) (config : BreakerConfig) (now : ℕ)
    (past : List Act) :
    ((start name config now).after past).breaker.Follows config := by
  induction past with
  | nil => exact ⟨rfl, rfl, rfl, rfl, rfl⟩
  | cons a past ih =>
      have hcoherent := (start_coherent name config now).after past
      exact (hcoherent.transition a).follows ih

end Situation

end Breaker

end Newsstand
