import Newsstand.Proofs.Fetch.Accounts

/-!
# The accounts of a sweep

The jobs of a sweep are those in its rooms; a document that waits to be handed
out holds nothing any more.  Every move of a sweep keeps the accounts in order,
so they are in order whichever moves are made, and at the end of a sweep no job
is left.
-/

namespace Newsstand

/-- The fetch that goes on in a room. -/
def Room.job? : Room → Option Job
  | .going begun => some begun
  | .done _ _ => none

namespace Sweep

/-- The jobs that go on in some rooms. -/
def jobsIn (rooms : List Room) : Multiset Job :=
  ↑(rooms.filterMap Room.job?)

/-- The accounts of a sweep are in order while `held` workers are held from
outside.  When it has started all its fetches, the breaker will have been asked
`total` times. -/
structure InOrder (origin : Breaker.Situation) (s : Sweep)
    (held total : ℕ) : Prop where
  pending_le : s.pending.length ≤ total
  fetcher : s.fetcher.InOrder origin (jobsIn s.rooms) held
    (total - s.pending.length)

variable {origin : Breaker.Situation} {s : Sweep} {held total : ℕ}

/-! ## Rooms -/

theorem jobsIn_append_going (rooms : List Room) (job : Job) :
    jobsIn (rooms ++ [.going job]) = job ::ₘ jobsIn rooms := by
  simp only [jobsIn, List.filterMap_append, ← Multiset.coe_add]
  rw [Multiset.add_comm]
  rfl

theorem jobsIn_append_done (rooms : List Room) (url body : String) :
    jobsIn (rooms ++ [.done url body]) = jobsIn rooms := by
  simp only [jobsIn, List.filterMap_append]
  exact congrArg _ (List.append_nil _)

/-- Of the jobs in some rooms only the one in a certain room changes with the
content of that room. -/
theorem exists_jobsIn_set {rooms : List Room} {i : ℕ} {job : Job}
    (h : rooms[i]? = some (.going job)) :
    ∃ others, jobsIn rooms = job ::ₘ others ∧
      (∀ next, jobsIn (rooms.set i (.going next)) = next ::ₘ others) ∧
      ∀ url body, jobsIn (rooms.set i (.done url body)) = others := by
  induction rooms generalizing i with
  | nil => simp at h
  | cons room rooms ih =>
      cases i with
      | zero =>
          obtain rfl : room = .going job := by simpa using h
          exact ⟨jobsIn rooms, rfl, fun next => rfl, fun url body => rfl⟩
      | succ i =>
          obtain ⟨others, hjobs, hgoing, hdone⟩ := ih (by simpa using h)
          cases room with
          | done url body => exact ⟨others, hjobs, hgoing, hdone⟩
          | going first =>
              have hcons (rooms : List Room) :
                  jobsIn (.going first :: rooms) = first ::ₘ jobsIn rooms := rfl
              refine ⟨first ::ₘ others, ?_, fun next => ?_, fun url body => ?_⟩
              · rw [hcons, hjobs, Multiset.cons_swap]
              · rw [List.set_cons_succ, hcons, hgoing, Multiset.cons_swap]
              · rw [List.set_cons_succ, hcons, hdone]

/-- Documents that are handed out make room, but they were no jobs. -/
theorem jobsIn_handOut (s : Sweep) :
    jobsIn s.handOut.rooms = jobsIn s.rooms := by
  obtain ⟨fetcher, pending, rooms, bodies, log⟩ := s
  induction rooms with
  | nil => rfl
  | cons room rooms ih =>
      cases room with
      | going job => rfl
      | done url body => exact ih

theorem InOrder.handOut (h : s.InOrder origin held total) :
    s.handOut.InOrder origin held total := by
  refine ⟨h.pending_le, ?_⟩
  rw [jobsIn_handOut]
  exact h.fetcher

/-! ## Moves -/

theorem inOrder_ofUrls {f : Fetcher} {asked : ℕ}
    (h : f.InOrder origin 0 held asked) (urls : List String) :
    (ofUrls f urls).InOrder origin held (asked + urls.length) := by
  refine ⟨Nat.le_add_left _ _, ?_⟩
  simp only [ofUrls, Nat.add_sub_cancel]
  exact h

theorem InOrder.startNext (h : s.InOrder origin held total) :
    s.startNext.InOrder origin held total := by
  have hle := h.pending_le
  unfold Sweep.startNext
  split
  next => exact h
  next url pending hpending =>
      rw [hpending, List.length_cons] at hle
      split
      · exact h
      · have hstart := h.fetcher.start url
        have hasked :
            total - s.pending.length + 1 = total - pending.length := by
          rw [hpending, List.length_cons]
          omega
        rw [hasked] at hstart
        split
        next job fetcher log heq =>
            rw [heq] at hstart
            refine ⟨by simp only; omega, ?_⟩
            rw [jobsIn_append_going]
            exact hstart
        next fault fetcher log heq =>
            rw [heq] at hstart
            refine InOrder.handOut ⟨by simp only; omega, ?_⟩
            simp only [jobsIn_append_done]
            simpa only [Beginning.jobs, Multiset.zero_add] using hstart

theorem InOrder.advance (h : s.InOrder origin held total) (i : ℕ) :
    (s.advance i).InOrder origin held total := by
  have hfetcher := h.fetcher
  unfold Sweep.advance
  split
  next job hroom =>
      obtain ⟨others, hjobs, hgoing, hdone⟩ := exists_jobsIn_set hroom
      rw [hjobs] at hfetcher
      split
      next number hphase =>
          split
          next => exact h
          next next fetcher hresume =>
              refine ⟨h.pending_le, ?_⟩
              rw [hgoing]
              exact hfetcher.resume hphase hresume
      next download hphase =>
          refine InOrder.handOut ⟨h.pending_le, ?_⟩
          simp only [hdone]
          exact hfetcher.finish hphase
  next => exact h

theorem InOrder.move (h : s.InOrder origin held total) (m : Move) :
    (s.move m).InOrder origin held total := by
  cases m with
  | start => exact h.startNext
  | advance i => exact h.advance i

theorem InOrder.moves (h : s.InOrder origin held total) (ms : List Move) :
    (s.moves ms).InOrder origin held total := by
  induction ms generalizing s with
  | nil => exact h
  | cons m ms ih => exact ih (h.move m)

theorem InOrder.clocked (h : s.InOrder origin held total) {now : ℕ}
    (hnow : now < UInt64.size) : (s.clocked now).InOrder origin held total :=
  ⟨h.pending_le, h.fetcher.clocked (Or.inr hnow)⟩

theorem InOrder.timed (h : s.InOrder origin held total)
    {ms : List (ℕ × Move)} (hreadings : ∀ m ∈ ms, m.1 < UInt64.size) :
    (s.timed ms).InOrder origin held total := by
  induction ms generalizing s with
  | nil => exact h
  | cons m ms ih =>
      obtain ⟨hfirst, hrest⟩ := List.forall_mem_cons.mp hreadings
      exact ih ((h.clocked hfirst).move m.2) hrest

/-- A sweep that chooses its moves itself makes some moves. -/
theorem exists_run_eq_moves (fuel : ℕ) (s : Sweep) :
    ∃ ms, s.run fuel = s.moves ms := by
  induction fuel generalizing s with
  | zero => exact ⟨[], by simp only [run, moves]⟩
  | succ fuel ih =>
      cases hnext : s.next? with
      | none => exact ⟨[], by simp only [run, hnext, moves]⟩
      | some m =>
          obtain ⟨ms, hms⟩ := ih (s.move m)
          refine ⟨m :: ms, ?_⟩
          rw [run.eq_def, hnext]
          exact hms

theorem InOrder.run (h : s.InOrder origin held total) (fuel : ℕ) :
    (s.run fuel).InOrder origin held total := by
  obtain ⟨ms, hms⟩ := exists_run_eq_moves fuel s
  rw [hms]
  exact h.moves ms

/-- When all documents are handed out, every fetch has been started and no job
is left. -/
theorem InOrder.of_isOver (h : s.InOrder origin held total)
    (hover : s.isOver) : s.fetcher.InOrder origin 0 held total := by
  simp only [isOver, Bool.and_eq_true, List.isEmpty_iff] at hover
  have hfetcher := h.fetcher
  rw [hover.1, hover.2] at hfetcher
  exact hfetcher

end Sweep

end Newsstand
