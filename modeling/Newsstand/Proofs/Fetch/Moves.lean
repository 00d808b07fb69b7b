import Newsstand.Proofs.Fetch.Chronicle
import Newsstand.Proofs.Fetch.Sweep

/-!
# The moves of a sweep

All that a move can do is said here once.  Time may pass between moves:
downloads take time, and so does waiting for a worker.  A timed sweep reads the
clock before each of its moves, and nothing is said about the readings, so that
they may be those of any clock.
-/

namespace Newsstand

namespace Sweep

variable {s : Sweep} {i : ℕ} {job : Job}

/-! ## What moves do -/

theorem card_jobsIn_le (rooms : List Room) :
    (jobsIn rooms).card ≤ rooms.length := by
  rw [jobsIn, Multiset.coe_card]
  exact List.length_filterMap_le _ _

/-- A start does nothing, or it starts a fetch for which there is room. -/
theorem startNext_cases (s : Sweep) :
    (s.startNext = s ∧ s.happens .start = ([], [])) ∨
    ∃ url beginning, s.hasRoom ∧
      s.fetcher.Started url beginning s.startNext.fetcher ∧
      jobsIn s.startNext.rooms = beginning.jobs + jobsIn s.rooms ∧
      ∀ ending ∈ (s.happens .start).2, ∃ fault,
        beginning = .over fault ∧ ending.1.2 = .error fault := by
  cases hpending : s.pending with
  | nil => exact Or.inl ⟨by simp only [startNext, hpending],
      by simp only [happens, hpending]⟩
  | cons url pending =>
      by_cases hroom : s.hasRoom
      · right
        simp only [startNext, happens, hpending, hroom, Bool.not_true,
          Bool.false_eq_true, if_false]
        rcases hstart : s.fetcher.start url with ⟨fault | job, fetcher, log⟩
        · refine ⟨url, .over fault, trivial, Fetcher.started_of_eq hstart, ?_, ?_⟩
          · rw [jobsIn_handOut]
            simp only [endOf, jobsIn_append_done, Beginning.jobs,
              Multiset.zero_add]
          · intro ending hending
            obtain rfl := List.mem_singleton.mp hending
            exact ⟨fault, rfl, rfl⟩
        · refine ⟨url, .job job, trivial, Fetcher.started_of_eq hstart,
            jobsIn_append_going _ _, ?_⟩
          exact fun ending hending => absurd hending List.not_mem_nil
      · left
        simp only [startNext, happens, hpending, hroom, Bool.not_false, if_true,
          and_self]

theorem card_jobsIn_startNext_le (s : Sweep) :
    (jobsIn s.startNext.rooms).card ≤ (jobsIn s.rooms).card + 1 := by
  rcases s.startNext_cases with ⟨hsame, -⟩ |
    ⟨url, beginning, -, -, hjobs, -⟩
  · rw [hsame]
    exact Nat.le_succ _
  · rw [hjobs, Multiset.card_add, Nat.add_comm]
    cases beginning <;> simp [Beginning.jobs]

/-- A start brings no worker to any place. -/
theorem assignedNumbers_startNext (s : Sweep) :
    s.startNext.fetcher.pool.assignedNumbers =
      s.fetcher.pool.assignedNumbers := by
  rcases s.startNext_cases with ⟨hsame, -⟩ | ⟨url, beginning, -, hstarted, -⟩
  · rw [hsame]
  · rcases hstarted.pool with hpool | hpool
    · rw [hpool]
    · rw [hpool, WorkerPool.assignedNumbers_acquire]

/-- In a room there is no job, or one that waits, or one that downloads. -/
theorem room_cases (s : Sweep) (i : ℕ) :
    (∀ job, s.rooms[i]? ≠ some (.going job)) ∨
    (∃ job number, s.rooms[i]? = some (.going job) ∧
      job.phase = .waiting number) ∨
    ∃ job download, s.rooms[i]? = some (.going job) ∧
      job.phase = .downloading download := by
  by_cases hroom : ∃ job, s.rooms[i]? = some (.going job)
  · obtain ⟨job, hroom⟩ := hroom
    cases hphase : job.phase with
    | waiting number => exact Or.inr (Or.inl ⟨job, number, hroom, hphase⟩)
    | downloading download =>
        exact Or.inr (Or.inr ⟨job, download, hroom, hphase⟩)
  · exact Or.inl (not_exists.mp hroom)

theorem mem_jobsIn_of_room (hroom : s.rooms[i]? = some (.going job)) :
    job ∈ jobsIn s.rooms :=
  List.mem_filterMap.mpr ⟨_, List.mem_of_getElem? hroom, rfl⟩

theorem advance_of_no_job (hroom : ∀ job, s.rooms[i]? ≠ some (.going job)) :
    s.advance i = s ∧ s.happens (.advance i) = ([], []) := by
  rcases hrooms : s.rooms[i]? with _ | job | ⟨url, body⟩
  · simp only [advance, happens, hrooms, and_self]
  · exact absurd hrooms (hroom job)
  · simp only [advance, happens, hrooms, and_self]

/-- A fetch that waits looks whether its worker has come. -/
theorem advance_of_waiting {number : ℕ}
    (hroom : s.rooms[i]? = some (.going job))
    (hphase : job.phase = .waiting number) :
    (s.advance i).fetcher.pool = (s.fetcher.pool.poll number).2 ∧
      (jobsIn (s.advance i).rooms).card = (jobsIn s.rooms).card ∧
      s.happens (.advance i) = ([], []) := by
  obtain ⟨others, hjobs, hgoing, -⟩ := exists_jobsIn_set hroom
  simp only [advance, happens, hroom, hphase]
  split
  next hresume =>
      unfold Fetcher.resume at hresume
      split at hresume
      next pool hpoll =>
          obtain rfl := WorkerPool.poll_eq_false hpoll
          rw [hpoll]
          exact ⟨rfl, rfl, trivial⟩
      next => cases hresume
  next next fetcher hresume =>
      obtain ⟨pool, hpoll, -, rfl⟩ := Fetcher.resume_eq_some hresume
      refine ⟨by rw [hpoll]; rfl, ?_, trivial⟩
      rw [hgoing, hjobs, Multiset.card_cons, Multiset.card_cons]

/-- A fetch that downloads ends and gives its worker back. -/
theorem advance_of_downloading {download : Download}
    (hroom : s.rooms[i]? = some (.going job))
    (hphase : job.phase = .downloading download) :
    (s.advance i).fetcher.pool = s.fetcher.pool.release ∧
      jobsIn s.rooms = job ::ₘ jobsIn (s.advance i).rooms ∧
      s.happens (.advance i) =
        ([], [((job.url, download.result), s.bodies.length + i)]) := by
  obtain ⟨others, hjobs, -, hdone⟩ := exists_jobsIn_set hroom
  simp only [advance, happens, hroom, hphase]
  refine ⟨rfl, ?_, trivial⟩
  rw [jobsIn_handOut, hjobs]
  simp only [endOf, hdone]

/-! ## Who has a worker -/

/-- Pool and rooms of a sweep agree about who has a worker or waits for one,
besides the `held` workers that are held from outside. -/
def Staffed (s : Sweep) (held : ℕ) : Prop :=
  s.fetcher.pool.Staffed (held + Fetcher.busy (jobsIn s.rooms))
    (Fetcher.places (jobsIn s.rooms))

variable {held : ℕ}

/-- Every move keeps pool and rooms in agreement, whatever the breaker says. -/
theorem Staffed.move (h : s.Staffed held) (m : Move) :
    (s.move m).Staffed held := by
  -- The accounts may begin anywhere, and so they do here.
  let origin := s.fetcher.situation (jobsIn s.rooms)
  have haccounts : s.InOrder origin held s.pending.length := by
    refine ⟨le_rfl, h, [], ?_, rfl⟩
    rw [List.count_nil, Nat.sub_self]
  exact (haccounts.move m).fetcher.staffed

/-- Nobody is counted as waiting but the fetches that wait. -/
theorem Staffed.waiting_eq (h : s.Staffed held) :
    s.fetcher.pool.waiting = (Fetcher.places (jobsIn s.rooms)).card := by
  have hqueued := congrArg Multiset.card h.queued
  rw [Multiset.coe_card, List.length_map] at hqueued
  exact h.counted.trans hqueued

/-- Whoever stands in the queue is a fetch in one of the rooms. -/
theorem Staffed.exists_job (h : s.Staffed held) {t : Ticket}
    (ht : t ∈ s.fetcher.pool.queue) :
    ∃ job ∈ jobsIn s.rooms, job.place? = some t.number := by
  have hnumber : t.number ∈ Fetcher.places (jobsIn s.rooms) := by
    rw [← h.queued]
    exact List.mem_map_of_mem ht
  exact (Multiset.mem_filterMap _ _).mp hnumber

/-- A fetch whose worker has come can go on without the network. -/
theorem Staffed.exists_goesOnAlone (h : s.Staffed held) {t : Ticket}
    (ht : t ∈ s.fetcher.pool.queue) (hassigned : t.assigned) :
    ∃ room ∈ s.rooms, goesOnAlone s.fetcher room := by
  obtain ⟨job, hjob, hplace⟩ := h.exists_job ht
  obtain ⟨room, hroom, hgoing⟩ := List.mem_filterMap.mp hjob
  refine ⟨room, hroom, ?_⟩
  cases room with
  | done url body => cases hgoing
  | going other =>
      obtain rfl := Option.some.inj hgoing
      cases hphase : other.phase with
      | waiting number =>
          obtain rfl : number = t.number := by
            simpa only [Job.place?, hphase, Option.some.injEq] using hplace
          simp only [goesOnAlone, hphase,
            WorkerPool.Staffed.isAssigned_iff h ht, hassigned]
      | downloading download => simp [Job.place?, hphase] at hplace

/-! ## Time -/

theorem timed_append (s : Sweep) (ms ns : List (ℕ × Move)) :
    s.timed (ms ++ ns) = (s.timed ms).timed ns := by
  induction ms generalizing s with
  | nil => rfl
  | cons m ms ih => exact ih _

/-- A move takes no time. -/
theorem now_move (s : Sweep) (m : Move) :
    (s.move m).fetcher.now = s.fetcher.now := by
  cases m with
  | start =>
      rcases s.startNext_cases with ⟨hsame, -⟩ | ⟨url, beginning, -, hstarted, -⟩
      · exact congrArg (·.fetcher.now) hsame
      · exact hstarted.now
  | advance i =>
      simp only [move, advance]
      split
      next job hroom =>
          split
          next number hphase =>
              split
              next => rfl
              next next fetcher hresume =>
                  obtain ⟨pool, -, -, rfl⟩ := Fetcher.resume_eq_some hresume
                  rfl
          next download hphase => rfl
      next => rfl

theorem now_moves (s : Sweep) (ms : List Move) :
    (s.moves ms).fetcher.now = s.fetcher.now := by
  induction ms generalizing s with
  | nil => rfl
  | cons m ms ih => exact (ih _).trans (s.now_move m)

/-- Moves without a clock are moves at the reading that there is. -/
theorem timed_map_now (s : Sweep) (ms : List Move) :
    s.timed (ms.map fun m => (s.fetcher.now, m)) = s.moves ms := by
  induction ms generalizing s with
  | nil => rfl
  | cons m ms ih =>
      have hrest := ih (s.move m)
      rw [now_move] at hrest
      exact hrest

/-- What the clock and every move preserve holds of a sweep after all moves. -/
theorem timed_induction {P : Sweep → Prop} {s : Sweep}
    (hclocked : ∀ s now, P s → P (s.clocked now))
    (hmove : ∀ s m, P s → P (s.move m)) (h : P s) (ms : List (ℕ × Move)) :
    P (s.timed ms) := by
  induction ms generalizing s with
  | nil => exact h
  | cons m ms ih => exact ih (hmove _ _ (hclocked _ _ h))

end Sweep

end Newsstand
