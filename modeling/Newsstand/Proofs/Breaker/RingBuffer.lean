import Newsstand.Breaker.RingBuffer
import Newsstand.Proofs.Breaker.Ledger

/-!
# Ring buffers and windows

A ring buffer keeps a window.  What has been written to it are the slices of
the window, each in the place of its remainder: a place is cleared for another
slice exactly when the window lets the old one go.  What stands in the places
therefore counts as it does in the window, and so as in the ledger, however
long nothing has been counted in between.

On a clock below `2 ^ 63` a machine can do all of it, as long as no number of
calls outgrows a word; which takes as many calls.
-/

namespace Newsstand

open Ledger

/-! ## Deeds -/

namespace Window

/-- The window after one deed. -/
def act (w : Window) : Deed → Window
  | .record now success => w.record now success
  | .reset => w.reset

theorem foldl_act_count (deeds : List Deed) (w : Window) :
    (deeds.foldl act w).count = w.count := by
  induction deeds generalizing w with
  | nil => rfl
  | cons deed deeds ih =>
      rw [List.foldl_cons, ih]
      cases deed <;> rfl

theorem foldl_act_width (deeds : List Deed) (w : Window) :
    (deeds.foldl act w).width = w.width := by
  induction deeds generalizing w with
  | nil => rfl
  | cons deed deeds ih =>
      rw [List.foldl_cons, ih]
      cases deed <;> rfl

/-- The times at which something was counted. -/
def times (deeds : List Deed) : List ℕ :=
  deeds.filterMap fun
    | .record now _ => some now
    | .reset => none

end Window

namespace Ledger

/-- The ledger after one deed. -/
def note (ledger : List Entry) : Window.Deed → List Entry
  | .record now success => ⟨now, success⟩ :: ledger
  | .reset => []

/-- What has been counted in some deeds since the last reset, from the latest
to the first. -/
def noted (deeds : List Window.Deed) : List Entry :=
  deeds.foldl note []

end Ledger

namespace RingBuffer

variable {r : RingBuffer} {w : Window} {now t : ℕ} {ledger : List Entry}

/-! ## Places -/

/-- What has been written. -/
def written (places : List Slice) : List Slice :=
  places.filter (·.number != 0)

theorem mem_written {places : List Slice} {s : Slice} :
    s ∈ written places ↔ s ∈ places ∧ s.number ≠ 0 := by
  simp [written]

/-- Every slice that has been written stands in the place of its remainder. -/
def Placed (places : List Slice) (n : ℕ) : Prop :=
  ∀ i s, places[i]? = some s → s.number ≠ 0 → s.number % n = i

theorem Placed.set {places : List Slice} {n i : ℕ} {s : Slice}
    (h : Placed places n) (hs : s.number % n = i) :
    Placed (places.set i s) n := by
  intro j b hb hwritten
  rw [List.getElem?_set] at hb
  split at hb
  next hplace =>
      split at hb
      · obtain rfl := Option.some.inj hb
        exact hs.trans hplace
      · cases hb
  next => exact h j b hb hwritten

/-- Writing a place takes away what has been written there, and nothing else.
-/
theorem written_set_perm {places : List Slice} {n i : ℕ} {s : Slice}
    (h : Placed places n) (hi : i < places.length) (hs : s.number ≠ 0) :
    (written (places.set i s)).Perm
      (s :: (written places).filter fun b => b.number % n != i) := by
  have hbefore : ∀ b ∈ places.take i, b.number ≠ 0 → b.number % n ≠ i := by
    intro b hb hwritten
    obtain ⟨j, hj, hget⟩ := List.mem_iff_getElem.mp hb
    rw [List.length_take] at hj
    rw [List.getElem_take] at hget
    rw [h j b (List.getElem?_eq_some_iff.mpr ⟨by omega, hget⟩) hwritten]
    omega
  have hbehind : ∀ b ∈ places.drop (i + 1), b.number ≠ 0 →
      b.number % n ≠ i := by
    intro b hb hwritten
    obtain ⟨j, hj, hget⟩ := List.mem_iff_getElem.mp hb
    rw [List.getElem_drop] at hget
    rw [h (i + 1 + j) b (List.getElem?_eq_some_iff.mpr ⟨by
      rw [List.length_drop] at hj; omega, hget⟩) hwritten]
    omega
  have hold : places[i].number ≠ 0 → places[i].number % n = i :=
    h i places[i] (List.getElem?_eq_getElem hi)
  have hkept : ∀ part : List Slice,
      (∀ b ∈ part, b.number ≠ 0 → b.number % n ≠ i) →
      (written part).filter (fun b => b.number % n != i) = written part := by
    intro part hpart
    apply List.filter_eq_self.mpr
    intro b hb
    simpa using hpart b (mem_written.mp hb).1 (mem_written.mp hb).2
  have hgone :
      (written [places[i]]).filter (fun b => b.number % n != i) = [] := by
    apply List.filter_eq_nil_iff.mpr
    intro b hb
    obtain ⟨hb, hwritten⟩ := mem_written.mp hb
    obtain rfl := List.mem_singleton.mp hb
    simp [hold hwritten]
  have hsplit : places =
      places.take i ++ [places[i]] ++ places.drop (i + 1) := by
    simp
  have hset : written (places.set i s) = written (places.take i) ++
      s :: written (places.drop (i + 1)) := by
    rw [List.set_eq_take_append_cons_drop, if_pos hi]
    simp [written, hs]
  have hrest : (written places).filter (fun b => b.number % n != i) =
      written (places.take i) ++ written (places.drop (i + 1)) := by
    have hparts : written places = written (places.take i) ++
        written [places[i]] ++ written (places.drop (i + 1)) := by
      simp only [written, ← List.filter_append]
      rw [← hsplit]
    rw [hparts, List.filter_append, List.filter_append, hkept _ hbefore, hgone,
      hkept _ hbehind, List.append_nil]
  rw [hset, hrest]
  exact List.perm_middle

/-! ## Mirrors -/

/-- The ring buffer keeps the window. -/
structure Mirrors (r : RingBuffer) (w : Window) : Prop where
  length_eq : r.places.length = w.count
  width_eq : r.width = w.width
  placed : Placed r.places w.count
  perm : (written r.places).Perm w.slices

/-- The slices of the window are what has been written. -/
theorem Mirrors.mem_slices (h : r.Mirrors w) {s : Slice} :
    s ∈ w.slices ↔ s ∈ r.places ∧ s.number ≠ 0 := by
  rw [← h.perm.mem_iff, mem_written]

theorem mirrors_ofSpan (span count : ℕ) :
    ∃ r, ofSpan span count = .ok r ∧ r.Mirrors (.ofSpan span count) := by
  have hcount : max 1 count ≠ 0 := by omega
  refine ⟨⟨List.replicate (max 1 count) (blank 0),
    max 1 (span / max 1 count)⟩, ?_, ?_⟩
  · simp only [ofSpan, quotient, if_neg hcount]
    rfl
  · refine ⟨List.length_replicate, rfl, ?_, ?_⟩
    · intro i s hs hwritten
      rw [List.getElem?_replicate] at hs
      split at hs
      · obtain rfl := Option.some.inj hs
        exact absurd rfl hwritten
      · cases hs
    · simp [written, blank, Window.ofSpan]

theorem Mirrors.reset (h : r.Mirrors w) : r.reset.Mirrors w.reset where
  length_eq := by
    rw [RingBuffer.reset, List.length_map]
    exact h.length_eq
  width_eq := h.width_eq
  placed := by
    intro i s hs hwritten
    rw [RingBuffer.reset, List.getElem?_map] at hs
    obtain ⟨old, -, rfl⟩ := Option.map_eq_some_iff.mp hs
    exact absurd rfl hwritten
  perm := by
    have hnone : written r.reset.places = [] := by
      simp [written, RingBuffer.reset, blank]
    rw [hnone]
    exact List.Perm.refl _

/-! ## Numbers of slices -/

theorem two_mul_lt_size {a b : ℕ} (ha : a ≤ 2 ^ 63) (hb : b < 2 ^ 63) :
    a + b < UInt64.size := by
  have hsize : UInt64.size = 2 ^ 63 + 2 ^ 63 := by decide
  omega

theorem sliceAt_le (w : Window) (hnow : now < 2 ^ 63) :
    w.sliceAt now ≤ 2 ^ 63 :=
  (Nat.succ_le_succ (Nat.div_le_self now w.width)).trans hnow

theorem Mirrors.sliceAt_eq (h : r.Mirrors w) (hnow : now < 2 ^ 63) :
    r.sliceAt now = .ok (w.sliceAt now) := by
  have hwidth : w.width ≠ 0 := Nat.ne_of_gt w.width_pos
  have hfits : now / w.width + 1 < UInt64.size :=
    two_mul_lt_size ((Nat.div_le_self _ _).trans hnow.le) (by decide)
  simp only [sliceAt, h.width_eq, quotient, if_neg hwidth]
  exact if_pos hfits

/-! ## Recording -/

/-- What stands in the place for a time, once it is cleared, is the slice of
the window in which the outcome is recorded. -/
theorem Mirrors.slotAt_eq (h : r.Mirrors w) (hnow : now < 2 ^ 63) :
    r.slotAt now = .ok (w.sliceAt now % w.count, w.slot now) := by
  have hcount : w.count ≠ 0 := Nat.ne_of_gt w.count_pos
  have hplace : w.sliceAt now % w.count < r.places.length := by
    rw [h.length_eq]
    exact Nat.mod_lt _ w.count_pos
  obtain ⟨s, hs⟩ : ∃ s, r.places[w.sliceAt now % w.count]? = some s :=
    ⟨_, List.getElem?_eq_getElem hplace⟩
  have hslot : (if s.number = w.sliceAt now then s
      else blank (w.sliceAt now)) = w.slot now := by
    unfold Window.slot
    cases hfind : w.slices.find? (·.number == w.sliceAt now) with
    | some found =>
        -- The slice that is found stands in the same place.
        have hmem := h.mem_slices.mp (List.mem_of_find?_eq_some hfind)
        have hnumber : found.number = w.sliceAt now := by
          simpa using List.find?_some hfind
        obtain ⟨i, hi⟩ := List.mem_iff_getElem?.mp hmem.1
        have hsame := h.placed i found hi hmem.2
        rw [hnumber] at hsame
        rw [← hsame, hs] at hi
        obtain rfl := Option.some.inj hi
        rw [if_pos hnumber]
        rfl
    | none =>
        have hother : s.number ≠ w.sliceAt now := by
          intro heq
          have hwritten : s.number ≠ 0 := by
            rw [heq]
            exact Nat.succ_ne_zero _
          have hmem := h.mem_slices.mpr ⟨List.mem_of_getElem? hs, hwritten⟩
          simpa [heq] using List.find?_eq_none.mp hfind s hmem
        rw [if_neg hother]
        rfl
  simp only [slotAt, h.sliceAt_eq hnow, remainder, h.length_eq, if_neg hcount]
  simp only [bind, Except.bind, hs, hslot]
  rfl

/-- A slice can count one more outcome, unless it has counted as many as fit
into a word. -/
theorem tick_cases (s : Slice) (success : Bool) :
    tick s success = .ok (s.record success) ∨
      tick s success = .error .count ∧ UInt64.size ≤ s.total + 1 := by
  simp only [Slice.total, tick, sum, Slice.record]
  cases success with
  | true =>
      by_cases hfits : s.successes + 1 < UInt64.size
      · left
        simp only [if_true, if_pos hfits]
        rfl
      · right
        simp only [if_true, if_neg hfits]
        exact ⟨rfl, by omega⟩
  | false =>
      by_cases hfits : s.failures + 1 < UInt64.size
      · left
        simp only [Bool.false_eq_true, if_false, if_pos hfits]
        rfl
      · right
        simp only [Bool.false_eq_true, if_false, if_neg hfits]
        exact ⟨rfl, by omega⟩

/-- The slice in which an outcome is recorded has counted no more than stands
in the ledger. -/
theorem total_slot_le (hkeeps : w.Keeps now ledger) :
    (w.slot now).total ≤ ledger.length := by
  have hcounts : w.sliceAt now < w.sliceAt now + w.count :=
    Nat.lt_add_of_pos_right w.count_pos
  have hsum : w.total now = (w.slot now).total +
      w.sumOver now Slice.total (w.others now) := by
    have hslices :=
      Window.sumOver_slices hkeeps le_rfl (f := Slice.total) rfl
    rw [Window.sumOver_cons, Window.slot_number, if_pos hcounts] at hslices
    exact hslices
  calc
    (w.slot now).total ≤ w.total now := by omega
    _ = (recent w.width w.count now ledger).length :=
      hkeeps.total_eq now le_rfl
    _ ≤ ledger.length := List.length_filter_le _ _

/-- Recording an outcome in a ring buffer is recording it in the window, unless
there are more outcomes in the ledger than a word can count. -/
theorem Mirrors.record (h : r.Mirrors w) (hkeeps : w.Keeps now ledger)
    (hnow : now < 2 ^ 63) (success : Bool) :
    (∃ r', r.record now success = .ok r' ∧
        r'.Mirrors (w.record now success)) ∨
      r.record now success = .error .count ∧
        UInt64.size ≤ ledger.length + 1 := by
  have hslot := h.slotAt_eq hnow
  have hnumber : ((w.slot now).record success).number = w.sliceAt now := by
    rw [Window.record_number, Window.slot_number]
  rcases tick_cases (w.slot now) success with hok | ⟨herror, hfull⟩
  · left
    let places := r.places.set (w.sliceAt now % w.count)
      ((w.slot now).record success)
    have hset : r.record now success = .ok { r with places } := by
      simp only [RingBuffer.record, hslot, bind, Except.bind, hok]
      rfl
    refine ⟨{ r with places }, hset, ?_, h.width_eq, ?_, ?_⟩
    · rw [List.length_set]
      exact h.length_eq
    · apply h.placed.set
      rw [hnumber]
    · have hplace : w.sliceAt now % w.count < r.places.length := by
        rw [h.length_eq]
        exact Nat.mod_lt _ w.count_pos
      have hwritten : ((w.slot now).record success).number ≠ 0 := by
        rw [hnumber]
        exact Nat.succ_ne_zero _
      rw [Window.record_slices]
      exact (written_set_perm h.placed hplace hwritten).trans
        ((h.perm.filter _).cons _)
  · right
    refine ⟨?_, hfull.trans (Nat.succ_le_succ (total_slot_le hkeeps))⟩
    simp only [RingBuffer.record, hslot, bind, Except.bind, herror]

/-! ## Totals -/

/-- Whether a place counts, as a matter of numbers. -/
def isCurrent (r : RingBuffer) (current : ℕ) (s : Slice) : Bool :=
  s.number != 0 && current < s.number + r.places.length

theorem counts_eq {s : Slice} (current : ℕ)
    (hs : s.number + r.places.length < UInt64.size) :
    r.counts current s = .ok (r.isCurrent current s) := by
  by_cases hblank : s.number = 0
  · simp only [counts, isCurrent, hblank, if_true]
    rfl
  · simp only [counts, isCurrent, if_neg hblank, sum, if_pos hs]
    simp [bind, Except.bind, pure, Except.pure, hblank]

/-- Adding up the places comes to the sums over those that count, unless a word
cannot hold them. -/
theorem foldlM_tally_cases (r : RingBuffer) (current : ℕ)
    (slices : List Slice)
    (hslices : ∀ s ∈ slices, s.number + r.places.length < UInt64.size) :
    ∀ total failures, failures ≤ total →
      let counted := slices.filter (r.isCurrent current)
      let total' := counted.foldr (fun s n => s.total + n) 0
      let failures' := counted.foldr (fun s n => s.failures + n) 0
      slices.foldlM (r.tally current) (total, failures) =
          .ok (total + total', failures + failures') ∨
        slices.foldlM (r.tally current) (total, failures) = .error .count ∧
          UInt64.size ≤ total + total' := by
  induction slices with
  | nil =>
      intro total failures _
      exact Or.inl rfl
  | cons s slices ih =>
      intro total failures hle
      rw [List.forall_mem_cons] at hslices
      have hcounts := counts_eq current hslices.1
      rw [List.foldlM_cons]
      cases hcurrent : r.isCurrent current s with
      | false =>
          have htally :
              r.tally current (total, failures) s = .ok (total, failures) := by
            simp only [tally, hcounts, hcurrent]
            rfl
          rw [List.filter_cons_of_neg (by simp [hcurrent]), htally]
          exact ih hslices.2 total failures hle
      | true =>
          rw [List.filter_cons_of_pos hcurrent]
          simp only [List.foldr_cons, ← Nat.add_assoc]
          have htotal : s.total = s.successes + s.failures := rfl
          by_cases hfits : total + s.total < UInt64.size
          · have htally : r.tally current (total, failures) s =
                .ok (total + s.total, failures + s.failures) := by
              have hboth : total + s.successes + s.failures < UInt64.size := by
                omega
              have hsuccesses : total + s.successes < UInt64.size := by omega
              have hfailures : failures + s.failures < UInt64.size := by omega
              simp only [tally, hcounts, hcurrent, sum, bind, Except.bind,
                if_true, if_pos hboth, if_pos hsuccesses, if_pos hfailures,
                htotal, ← Nat.add_assoc]
              rfl
            rw [htally]
            exact ih hslices.2 (total + s.total) (failures + s.failures)
              (by omega)
          · right
            have hboth : ¬total + s.successes + s.failures < UInt64.size := by
              omega
            have htally : r.tally current (total, failures) s =
                .error .count := by
              simp only [tally, hcounts, hcurrent, sum, bind, Except.bind,
                if_true]
              by_cases hsuccesses : total + s.successes < UInt64.size
              · simp only [if_pos hsuccesses, if_neg hboth]
              · simp only [if_neg hsuccesses]
            rw [htally]
            exact ⟨rfl, by omega⟩

/-- A ring buffer counts what its window does, unless there are more outcomes in
the ledger than a word can count. -/
theorem Mirrors.totals (h : r.Mirrors w) (hkeeps : w.Keeps now ledger)
    (hcount : w.count < 2 ^ 63) (hnow : now < 2 ^ 63) :
    r.totals now = .ok (w.total now, w.failures now) ∨
      r.totals now = .error .count ∧ UInt64.size ≤ ledger.length := by
  have hfit : ∀ s ∈ r.places, s.number + r.places.length < UInt64.size := by
    intro s hs
    rw [h.length_eq]
    apply two_mul_lt_size _ hcount
    by_cases hblank : s.number = 0
    · rw [hblank]
      exact Nat.zero_le _
    · have hmem := h.mem_slices.mpr ⟨hs, hblank⟩
      exact (hkeeps.number_le s hmem).trans (sliceAt_le w hnow)
  have hperm : (r.places.filter (r.isCurrent (w.sliceAt now))).Perm
      (w.current now) := by
    have hsplit : r.places.filter (r.isCurrent (w.sliceAt now)) =
        (written r.places).filter fun s =>
          w.sliceAt now < s.number + w.count := by
      rw [written, List.filter_filter]
      apply List.filter_congr
      intro s _
      simp only [isCurrent, h.length_eq, Bool.and_comm]
    rw [hsplit]
    exact h.perm.filter _
  have htotal := hperm.foldr_eq' (f := fun s n => s.total + n)
    (fun x _ y _ n => by omega) 0
  have hfailures := hperm.foldr_eq' (f := fun s n => s.failures + n)
    (fun x _ y _ n => by omega) 0
  have hcases :=
    foldlM_tally_cases r (w.sliceAt now) r.places hfit 0 0 le_rfl
  simp only [Nat.zero_add, htotal, hfailures] at hcases
  have hfold : r.totals now =
      r.places.foldlM (r.tally (w.sliceAt now)) (0, 0) := by
    simp only [RingBuffer.totals, h.sliceAt_eq hnow]
    rfl
  rw [hfold]
  refine hcases.imp id fun ⟨herror, hfull⟩ => ⟨herror, hfull.trans ?_⟩
  calc
    w.total now = (recent w.width w.count now ledger).length :=
      hkeeps.total_eq now le_rfl
    _ ≤ ledger.length := List.length_filter_le _ _

/-! ## Runs -/

/-- Deeds at times that do not go back leave a window that keeps the ledger. -/
theorem keeps_foldl_act (hkeeps : w.Keeps t ledger)
    (deeds : List Window.Deed)
    (htimes : (t :: (Window.times deeds ++ [now])).Pairwise (· ≤ ·)) :
    (deeds.foldl Window.act w).Keeps now (deeds.foldl note ledger) := by
  induction deeds generalizing w t ledger with
  | nil =>
      have hle : t ≤ now := by simpa [Window.times] using htimes
      exact hkeeps.mono hle
  | cons deed deeds ih =>
      cases deed with
      | reset => exact ih (Window.keeps_nil rfl t) htimes
      | record time success =>
          obtain ⟨hle, htimes⟩ := List.pairwise_cons.mp htimes
          have hmono := hkeeps.mono (hle time List.mem_cons_self)
          exact ih (hmono.record success) htimes

theorem length_foldl_note_le (deeds : List Window.Deed)
    (ledger : List Entry) :
    (deeds.foldl note ledger).length ≤
      ledger.length + (Window.times deeds).length := by
  induction deeds generalizing ledger with
  | nil => exact le_rfl
  | cons deed deeds ih =>
      cases deed with
      | reset =>
          have hrest := ih []
          rw [List.length_nil, Nat.zero_add] at hrest
          exact hrest.trans (Nat.le_add_left _ _)
      | record time success =>
          have hrest := ih (⟨time, success⟩ :: ledger)
          rw [List.length_cons] at hrest
          have htimes : Window.times (.record time success :: deeds) =
              time :: Window.times deeds := rfl
          rw [htimes, List.length_cons]
          exact hrest.trans (by omega)

/-- Deeds at times that do not go back leave a ring buffer that keeps the
window, unless more outcomes are recorded than a word can count. -/
theorem Mirrors.foldlM_act (h : r.Mirrors w) (hkeeps : w.Keeps t ledger)
    (hnow : now < 2 ^ 63) (deeds : List Window.Deed)
    (htimes : (t :: (Window.times deeds ++ [now])).Pairwise (· ≤ ·)) :
    (∃ r', deeds.foldlM act r = .ok r' ∧
        r'.Mirrors (deeds.foldl Window.act w)) ∨
      deeds.foldlM act r = .error .count ∧
        UInt64.size ≤ ledger.length + (Window.times deeds).length := by
  induction deeds generalizing r w t ledger with
  | nil => exact Or.inl ⟨r, rfl, h⟩
  | cons deed deeds ih =>
      cases deed with
      | reset =>
          have hrest := ih h.reset (Window.keeps_nil rfl t) htimes
          rw [List.length_nil, Nat.zero_add] at hrest
          refine hrest.imp id (And.imp_right fun hfull => ?_)
          exact hfull.trans (Nat.le_add_left _ _)
      | record time success =>
          obtain ⟨hle, htimes⟩ := List.pairwise_cons.mp htimes
          have hmono := hkeeps.mono (hle time List.mem_cons_self)
          have hlater : time ≤ now :=
            (List.pairwise_cons.mp htimes).1 now (by simp)
          have hlength : (Window.times (.record time success :: deeds)).length =
              (Window.times deeds).length + 1 := rfl
          rw [List.foldlM_cons, List.foldl_cons, hlength]
          rcases h.record hmono (hlater.trans_lt hnow) success with
            ⟨r', hok, hmirrors⟩ | ⟨herror, hfull⟩
          · have hrest := ih hmirrors (hmono.record success) htimes
            rw [act, hok]
            refine hrest.imp id (And.imp_right fun hfull => ?_)
            rw [List.length_cons] at hfull
            omega
          · rw [act, herror]
            exact Or.inr ⟨rfl, by omega⟩

/-- What counts at a time is what has been recorded since the last reset and
lies in the slices that count, in the window as in the ring buffer.  Nothing
that a machine cannot do is ever asked of it, but for counting as many outcomes
as there are words. -/
theorem totalsAfter_eq_ledger (span count now : ℕ) (deeds : List Window.Deed)
    (hcount : max 1 count < 2 ^ 63) (hnow : now < 2 ^ 63)
    (htimes : (Window.times deeds ++ [now]).Pairwise (· ≤ ·)) :
    let n := max 1 count
    let counted := recent (max 1 (span / n)) n now (noted deeds)
    let w := deeds.foldl Window.act (.ofSpan span count)
    w.total now = counted.length ∧ w.failures now = failures counted ∧
    (totalsAfter span count deeds now =
        .ok (counted.length, failures counted) ∨
      totalsAfter span count deeds now = .error .count ∧
        UInt64.size ≤ (Window.times deeds).length) := by
  intro n counted w
  have htimes' : (0 :: (Window.times deeds ++ [now])).Pairwise (· ≤ ·) :=
    List.pairwise_cons.mpr ⟨fun time _ => Nat.zero_le time, htimes⟩
  have hnew := Window.keeps_nil (w := .ofSpan span count) rfl 0
  have hkeeps : w.Keeps now (noted deeds) := keeps_foldl_act hnew deeds htimes'
  have hwcount : w.count = n := Window.foldl_act_count deeds _
  have hwwidth : w.width = max 1 (span / n) :=
    Window.foldl_act_width deeds _
  have htotal : w.total now = counted.length := by
    rw [hkeeps.total_eq now le_rfl, hwcount, hwwidth]
  have hfailures : w.failures now = failures counted := by
    rw [hkeeps.failures_eq now le_rfl, hwcount, hwwidth]
  refine ⟨htotal, hfailures, ?_⟩
  obtain ⟨r, hr, hmirrors⟩ := mirrors_ofSpan span count
  have hrun := hmirrors.foldlM_act hnew hnow deeds htimes'
  rw [List.length_nil, Nat.zero_add] at hrun
  rcases hrun with ⟨r', hr', hmirrors'⟩ | ⟨herror, hfull⟩
  · have hafter : totalsAfter span count deeds now = r'.totals now := by
      simp only [totalsAfter, hr, hr', bind, Except.bind]
    rw [hafter]
    rcases hmirrors'.totals hkeeps (hwcount ▸ hcount) hnow with
      hok | ⟨herror, hfull⟩
    · exact Or.inl (by rw [hok, htotal, hfailures])
    · have hlength := length_foldl_note_le deeds []
      rw [List.length_nil, Nat.zero_add] at hlength
      exact Or.inr ⟨herror, hfull.trans hlength⟩
  · refine Or.inr ⟨?_, hfull⟩
    simp only [totalsAfter, hr, herror, bind, Except.bind]

/-- Two failures share a place of ten with a success that comes much later, and
count no more. -/
theorem totalsAfter_past_gap :
    let deeds : List Window.Deed :=
      [.record 3 true, .reset, .record 1000 false, .record 1050 false,
        .record 901000 true, .record 901200 false]
    max 1 10 < 2 ^ 63 ∧ 901300 < 2 ^ 63 ∧
      (Window.times deeds ++ [901300]).Pairwise (· ≤ ·) ∧
      totalsAfter 1000 10 deeds 901300 = .ok (2, 1) := by
  intro deeds
  obtain ⟨-, -, hok | ⟨-, hfull⟩⟩ :=
    totalsAfter_eq_ledger 1000 10 901300 deeds (by decide) (by decide)
      (by decide)
  · exact ⟨by decide, by decide, by decide, hok⟩
  · exact absurd hfull (by decide)

end RingBuffer

end Newsstand
