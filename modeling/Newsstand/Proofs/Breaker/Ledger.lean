import Mathlib.Data.Nat.ModEq
import Newsstand.Breaker.Window
import Newsstand.Proofs.Support.DistinctKeys

/-!
# Rolling windows and ledgers

A ledger is the plain list of what a window has been told: when each call ended
and how.  A window forgets, since slices whose numbers leave the same remainder
share one place; but a slice that loses its place does so to one that is at
least a whole window younger, and counts no more.  On a clock that does not go
back the counts of a window are therefore those of its ledger, now and at any
later time.
-/

namespace Newsstand

/-- An entry of a ledger: when a call ended, and whether it succeeded. -/
structure Entry where
  time : ℕ
  success : Bool
  deriving DecidableEq, Repr

namespace Ledger

/-- The entries that lie in the last `count` slices of `width` milliseconds. -/
def recent (width count now : ℕ) (ledger : List Entry) : List Entry :=
  ledger.filter fun e => now / width < e.time / width + count

/-- The number of failures among some entries. -/
def failures (ledger : List Entry) : ℕ :=
  ledger.countP fun e => !e.success

theorem recent_cons (width count now : ℕ) (e : Entry) (ledger : List Entry) :
    recent width count now (e :: ledger) =
      if now / width < e.time / width + count then
        e :: recent width count now ledger
      else recent width count now ledger := by
  simp only [recent, List.filter_cons, decide_eq_true_eq]

theorem failures_cons (e : Entry) (ledger : List Entry) :
    failures (e :: ledger) =
      failures ledger + if e.success then 0 else 1 := by
  cases h : e.success <;> simp [failures, h]

end Ledger

namespace Window

open Ledger

/-- The window counts what stands in the ledger, now and at any later time. -/
structure Keeps (w : Window) (now : ℕ) (ledger : List Entry) : Prop where
  residues_nodup : (w.slices.map fun s => s.number % w.count).Nodup
  number_le : ∀ s ∈ w.slices, s.number ≤ w.sliceAt now
  total_eq : ∀ t, now ≤ t →
    w.total t = (recent w.width w.count t ledger).length
  failures_eq : ∀ t, now ≤ t →
    w.failures t = Ledger.failures (recent w.width w.count t ledger)

variable {w : Window} {now t : ℕ} {ledger : List Entry} {success : Bool}

@[simp] theorem record_count (w : Window) (now : ℕ) (success : Bool) :
    (w.record now success).count = w.count := rfl

@[simp] theorem record_width (w : Window) (now : ℕ) (success : Bool) :
    (w.record now success).width = w.width := rfl

theorem sliceAt_mono (w : Window) (h : now ≤ t) :
    w.sliceAt now ≤ w.sliceAt t :=
  Nat.succ_le_succ (Nat.div_le_div_right h)

/-- An entry is recent exactly when the slice of its time counts. -/
theorem sliceAt_lt_iff (w : Window) (now time : ℕ) :
    w.sliceAt now < w.sliceAt time + w.count ↔
      now / w.width < time / w.width + w.count := by
  simp only [sliceAt]
  omega

theorem keeps_nil (h : w.slices = []) (now : ℕ) : w.Keeps now [] := by
  constructor
  · simp [h]
  · simp [h]
  · simp [total, current, recent, h]
  · simp [failures, current, recent, Ledger.failures, h]

theorem Keeps.mono (h : w.Keeps now ledger) (hle : now ≤ t) :
    w.Keeps t ledger where
  residues_nodup := h.residues_nodup
  number_le s hs := (h.number_le s hs).trans (w.sliceAt_mono hle)
  total_eq later hlater := h.total_eq later (hle.trans hlater)
  failures_eq later hlater := h.failures_eq later (hle.trans hlater)

/-! ## Recording -/

/-- The slices that keep their places when an outcome is recorded. -/
def others (w : Window) (now : ℕ) : List Slice :=
  w.slices.filter fun s => s.number % w.count != w.sliceAt now % w.count

/-- The slice in which an outcome is recorded, as it was before. -/
def slot (w : Window) (now : ℕ) : Slice :=
  (w.slices.find? (·.number == w.sliceAt now)).getD ⟨w.sliceAt now, 0, 0⟩

theorem record_slices (w : Window) (now : ℕ) (success : Bool) :
    (w.record now success).slices =
      (w.slot now).record success :: w.others now := rfl

theorem slot_number (w : Window) (now : ℕ) :
    (w.slot now).number = w.sliceAt now := by
  unfold slot
  cases hfind : w.slices.find? (·.number == w.sliceAt now) with
  | none => rfl
  | some s => simpa using List.find?_some hfind

theorem record_number (s : Slice) (success : Bool) :
    (s.record success).number = s.number := by
  cases success <;> rfl

/-- A slice that loses its place to another one counts no more. -/
theorem not_counts_of_residue_eq {s : Slice} (hle : s.number ≤ w.sliceAt now)
    (hne : s.number ≠ w.sliceAt now)
    (hresidue : s.number % w.count = w.sliceAt now % w.count)
    (hlater : now ≤ t) : ¬w.sliceAt t < s.number + w.count := by
  have hgap : s.number + w.count ≤ w.sliceAt now :=
    Nat.ModEq.add_le_of_lt hresidue (lt_of_le_of_ne hle hne)
  exact Nat.not_lt.mpr (hgap.trans (w.sliceAt_mono hlater))

/-- What a measure of slices adds up to over the slices that count. -/
def sumOver (w : Window) (t : ℕ) (f : Slice → ℕ) (slices : List Slice) : ℕ :=
  (slices.filter fun s => w.sliceAt t < s.number + w.count).foldr
    (fun s n => f s + n) 0

theorem sumOver_cons (w : Window) (t : ℕ) (f : Slice → ℕ) (s : Slice)
    (slices : List Slice) :
    w.sumOver t f (s :: slices) =
      (if w.sliceAt t < s.number + w.count then f s else 0) +
        w.sumOver t f slices := by
  by_cases hcounts : w.sliceAt t < s.number + w.count
  · simp [sumOver, hcounts]
  · simp [sumOver, hcounts]

/-- Before an outcome is recorded its slice and those that keep their places
are all that counts. -/
theorem sumOver_slices (h : w.Keeps now ledger) (hlater : now ≤ t)
    {f : Slice → ℕ} (hempty : f ⟨w.sliceAt now, 0, 0⟩ = 0) :
    w.sumOver t f w.slices = w.sumOver t f (w.slot now :: w.others now) := by
  unfold slot
  cases hfind : w.slices.find? (·.number == w.sliceAt now) with
  | some s =>
      have hnumber : s.number = w.sliceAt now := by
        simpa using List.find?_some hfind
      have hperm := perm_cons_filter_key h.residues_nodup
        (List.mem_of_find?_eq_some hfind)
      simp only [hnumber] at hperm
      exact (hperm.filter _).foldr_eq' (fun x _ y _ n => by omega) 0
  | none =>
      have hother : ∀ s ∈ w.slices, s.number ≠ w.sliceAt now := by
        simpa using hfind
      have hkeep : ∀ s ∈ w.slices,
          w.sliceAt t < s.number + w.count →
            s.number % w.count ≠ w.sliceAt now % w.count := by
        intro s hs hcounts hresidue
        exact not_counts_of_residue_eq (h.number_le s hs) (hother s hs)
          hresidue hlater hcounts
      rw [Option.getD_none, sumOver_cons, hempty, ite_self, Nat.zero_add]
      unfold sumOver others
      rw [List.filter_filter]
      congr 1
      apply List.filter_congr
      intro s hs
      by_cases hcounts : w.sliceAt t < s.number + w.count
      · simp [hcounts, hkeep s hs hcounts]
      · simp [hcounts]

/-- Recording adds to a measure what one outcome adds to it, as long as the
slice of the outcome counts. -/
theorem sumOver_record (h : w.Keeps now ledger) (hlater : now ≤ t)
    {f : Slice → ℕ} {d : ℕ} (hempty : f ⟨w.sliceAt now, 0, 0⟩ = 0)
    (hrecord : ∀ s, f (Slice.record s success) = f s + d) :
    w.sumOver t f (w.record now success).slices =
      w.sumOver t f w.slices +
        if t / w.width < now / w.width + w.count then d else 0 := by
  rw [sumOver_slices h hlater hempty, record_slices, sumOver_cons,
    sumOver_cons, record_number, slot_number, hrecord]
  simp only [sliceAt_lt_iff]
  split <;> omega

theorem residues_nodup_record (h : w.Keeps now ledger) :
    ((w.record now success).slices.map fun s => s.number % w.count).Nodup := by
  rw [record_slices, List.map_cons, List.nodup_cons, record_number,
    slot_number]
  refine ⟨?_, ?_⟩
  · intro hmem
    obtain ⟨s, hs, hresidue⟩ := List.mem_map.mp hmem
    have hne := (List.mem_filter.mp hs).2
    simp [hresidue] at hne
  · exact nodup_map_filter h.residues_nodup _

/-- A window that is told of an outcome still counts what stands in its
ledger. -/
theorem Keeps.record (h : w.Keeps now ledger) (success : Bool) :
    (w.record now success).Keeps now (⟨now, success⟩ :: ledger) where
  residues_nodup := residues_nodup_record h
  number_le s hs := by
    rw [record_slices] at hs
    rcases List.mem_cons.mp hs with rfl | hs
    · rw [record_number, slot_number]
      exact le_refl _
    · exact h.number_le s (List.mem_of_mem_filter hs)
  total_eq t hlater := by
    have hsum : (w.record now success).total t = w.total t +
        if t / w.width < now / w.width + w.count then 1 else 0 :=
      sumOver_record h hlater rfl fun s => by
        cases success <;> simp [Slice.record, Slice.total] <;> omega
    rw [hsum, h.total_eq t hlater, record_width, record_count, recent_cons]
    split <;> simp
  failures_eq t hlater := by
    have hsum : (w.record now success).failures t = w.failures t +
        if t / w.width < now / w.width + w.count then
          (if success then 0 else 1) else 0 :=
      sumOver_record h hlater rfl fun s => by
        cases success <;> simp [Slice.record]
    rw [hsum, h.failures_eq t hlater, record_width, record_count, recent_cons]
    split
    · rw [failures_cons]
    · rfl

theorem recent_record (w : Window) (now : ℕ) (success : Bool)
    (ledger : List Entry) :
    recent w.width w.count now (⟨now, success⟩ :: ledger) =
      ⟨now, success⟩ :: recent w.width w.count now ledger := by
  rw [recent_cons, if_pos (Nat.lt_add_of_pos_right w.count_pos)]

/-- An outcome counts from the moment when it is recorded. -/
theorem Keeps.total_record (h : w.Keeps now ledger) (success : Bool) :
    (w.record now success).total now = w.total now + 1 := by
  rw [(h.record success).total_eq now le_rfl, h.total_eq now le_rfl,
    record_width, record_count, recent_record, List.length_cons]

theorem Keeps.failures_record (h : w.Keeps now ledger) (success : Bool) :
    (w.record now success).failures now =
      w.failures now + if success then 0 else 1 := by
  rw [(h.record success).failures_eq now le_rfl, h.failures_eq now le_rfl,
    record_width, record_count, recent_record, failures_cons]

/-! ## Successes -/

theorem sumOver_total (w : Window) (t : ℕ) (slices : List Slice) :
    w.sumOver t Slice.total slices =
      w.sumOver t Slice.failures slices +
        w.sumOver t Slice.successes slices := by
  induction slices with
  | nil => rfl
  | cons s slices ih =>
      rw [sumOver_cons, sumOver_cons, sumOver_cons, ih]
      split
      · simp only [Slice.total]
        omega
      · omega

/-- Of the calls that count, one that has just succeeded is no failure. -/
theorem failures_lt_total_record (w : Window) (now : ℕ) :
    (w.record now true).failures now < (w.record now true).total now := by
  have hcounts : w.sliceAt now < w.sliceAt now + w.count :=
    Nat.lt_add_of_pos_right w.count_pos
  have hpos :
      0 < w.sumOver now Slice.successes (w.record now true).slices := by
    rw [record_slices, sumOver_cons, record_number, slot_number,
      if_pos hcounts]
    exact Nat.add_pos_left (Nat.succ_pos _) _
  have htotal : (w.record now true).total now =
      (w.record now true).failures now +
        w.sumOver now Slice.successes (w.record now true).slices :=
    sumOver_total (w.record now true) now _
  omega

end Window

end Newsstand
