import Mathlib.Algebra.BigOperators.Group.Multiset.Defs
import Mathlib.Algebra.Group.Nat.Defs
import Newsstand.Proofs.Fetch.Moves

/-!
# Sweeps come to an end

A sweep can wait for the network, and it can wait for workers.  It waits for
ever only if all workers are held from outside and callers may wait for them.
Otherwise there is always a next move, each next move brings the sweep nearer to
its end, and the moves that a sweep allows itself are enough.
-/

namespace Newsstand

/-- The number of moves that are left to a job. -/
def Job.movesLeft (job : Job) : ℕ :=
  match job.phase with
  | .waiting _ => 2
  | .downloading _ => 1

namespace Sweep

variable {s : Sweep}

/-! ## The pool under moves -/

/-- What acquiring, taking and giving back workers preserves, the moves of a
sweep preserve. -/
theorem pool_of_move {P : WorkerPool → Prop}
    (hacquire : ∀ p, P p → P p.acquire.2.1)
    (hpoll : ∀ p number, P p → P (p.poll number).2)
    (hrelease : ∀ p, P p → P p.release) (h : P s.fetcher.pool) (m : Move) :
    P (s.move m).fetcher.pool := by
  cases m with
  | start =>
      rw [move]
      rcases s.startNext_cases with ⟨hsame, -⟩ | ⟨url, beginning, -, hstarted, -⟩
      · rw [hsame]
        exact h
      · rcases hstarted.pool with heq | heq
        · rw [heq]
          exact h
        · rw [heq]
          exact hacquire _ h
  | advance i =>
      rw [move]
      rcases s.room_cases i with
        hroom | ⟨job, number, hroom, hphase⟩ | ⟨job, download, hroom, hphase⟩
      · rw [(advance_of_no_job hroom).1]
        exact h
      · rw [(advance_of_waiting hroom hphase).1]
        exact hpoll _ number h
      · rw [(advance_of_downloading hroom hphase).1]
        exact hrelease _ h

theorem pool_terms_move (s : Sweep) (m : Move) :
    (s.move m).fetcher.pool.terms = s.fetcher.pool.terms := by
  apply pool_of_move (P := fun p => p.terms = s.fetcher.pool.terms)
  · intro p hp
    exact (WorkerPool.acquire_terms p).trans hp
  · intro p number hp
    exact (WorkerPool.poll_terms p number).trans hp
  · intro p hp
    exact (WorkerPool.release_terms p).trans hp
  · rfl

theorem pool_terms_timed (s : Sweep) (ms : List (ℕ × Move)) :
    (s.timed ms).fetcher.pool.terms = s.fetcher.pool.terms :=
  timed_induction (P := fun t => t.fetcher.pool.terms = s.fetcher.pool.terms)
    (fun _ _ h => h) (fun t m h => (t.pool_terms_move m).trans h) rfl ms

theorem inTurn_move (h : s.fetcher.pool.InTurn) (m : Move) :
    (s.move m).fetcher.pool.InTurn := by
  apply pool_of_move (P := WorkerPool.InTurn)
  · intro p hp
    exact hp.acquire
  · intro p number hp
    exact hp.poll number
  · intro p hp
    exact hp.release
  · exact h

/-! ## Rooms -/

/-- A sweep has no more rooms than workers, and the document in its first room
is not there yet. -/
structure Orderly (s : Sweep) : Prop where
  room : s.rooms.length ≤ s.fetcher.pool.size
  head : ∀ url body, s.rooms.head? ≠ some (.done url body)

theorem orderly_ofUrls (f : Fetcher) (urls : List String) :
    (ofUrls f urls).Orderly :=
  ⟨Nat.zero_le _, by simp [ofUrls]⟩

/-- Handing out goes on up to a document that is not there. -/
theorem head?_handOut (s : Sweep) (url body : String) :
    s.handOut.rooms.head? ≠ some (.done url body) := by
  obtain ⟨fetcher, pending, rooms, bodies, log⟩ := s
  induction rooms with
  | nil => simp [handOut]
  | cons room rooms ih =>
      cases room with
      | going job => simp [handOut]
      | done link text => exact ih

theorem length_rooms_handOut (s : Sweep) :
    s.handOut.rooms.length ≤ s.rooms.length :=
  (List.dropWhile_sublist _).length_le

theorem pool_size_move (s : Sweep) (m : Move) :
    (s.move m).fetcher.pool.size = s.fetcher.pool.size :=
  congrArg Prod.fst (s.pool_terms_move m)

theorem Orderly.startNext (h : s.Orderly) : s.startNext.Orderly := by
  have hsize : s.startNext.fetcher.pool.size = s.fetcher.pool.size :=
    s.pool_size_move .start
  suffices hrooms : s.startNext.rooms.length ≤ s.fetcher.pool.size ∧
      ∀ url body, s.startNext.rooms.head? ≠ some (.done url body) from
    ⟨hsize ▸ hrooms.1, hrooms.2⟩
  unfold Sweep.startNext
  split
  next => exact ⟨h.room, h.head⟩
  next url pending hpending =>
      split
      next => exact ⟨h.room, h.head⟩
      next hroom =>
          have hlt : s.rooms.length < s.fetcher.pool.size := by
            simpa [hasRoom] using hroom
          split
          next job fetcher log heq =>
              constructor
              · rw [List.length_append]
                exact hlt
              · intro url body
                have hhead := h.head url body
                cases hrooms : s.rooms with
                | nil => simp
                | cons first rooms =>
                    rw [hrooms] at hhead
                    exact hhead
          next fault fetcher log heq =>
              constructor
              · apply (length_rooms_handOut _).trans
                rw [List.length_append]
                exact hlt
              · exact head?_handOut _

theorem Orderly.advance (h : s.Orderly) (i : ℕ) : (s.advance i).Orderly := by
  have hsize : (s.advance i).fetcher.pool.size = s.fetcher.pool.size :=
    s.pool_size_move (.advance i)
  suffices hrooms : (s.advance i).rooms.length ≤ s.fetcher.pool.size ∧
      ∀ url body, (s.advance i).rooms.head? ≠ some (.done url body) from
    ⟨hsize ▸ hrooms.1, hrooms.2⟩
  unfold Sweep.advance
  split
  next job hroom =>
      split
      next number hphase =>
          split
          next => exact ⟨h.room, h.head⟩
          next next fetcher hresume =>
              constructor
              · simpa using h.room
              · intro url body
                have hhead := h.head url body
                cases hrooms : s.rooms with
                | nil => simp
                | cons first rooms =>
                    rw [hrooms] at hhead
                    cases i with
                    | zero => simp
                    | succ i => exact hhead
      next download hphase =>
          constructor
          · apply (length_rooms_handOut _).trans
            simpa using h.room
          · exact head?_handOut _
  next => exact ⟨h.room, h.head⟩

theorem Orderly.move (h : s.Orderly) (m : Move) : (s.move m).Orderly := by
  cases m with
  | start => exact h.startNext
  | advance i => exact h.advance i

theorem Orderly.clocked (h : s.Orderly) (now : ℕ) : (s.clocked now).Orderly :=
  ⟨h.room, h.head⟩

theorem Orderly.timed (h : s.Orderly) (ms : List (ℕ × Move)) :
    (s.timed ms).Orderly :=
  timed_induction (fun _ now h => h.clocked now) (fun _ m h => h.move m) h ms

/-! ## What is left to do -/

/-- The number of moves that are left to a sweep, unless it has to wait. -/
def movesLeft (s : Sweep) : ℕ :=
  3 * s.pending.length + ((jobsIn s.rooms).map (·.movesLeft)).sum

theorem movesLeft_ofUrls (f : Fetcher) (urls : List String) :
    (ofUrls f urls).movesLeft = 3 * urls.length := rfl

theorem movesLeft_handOut (s : Sweep) : s.handOut.movesLeft = s.movesLeft := by
  rw [movesLeft, jobsIn_handOut]
  rfl

/-- To start a fetch is one of its three moves. -/
theorem movesLeft_startNext {url : String} {pending : List String}
    (hpending : s.pending = url :: pending) (hroom : s.hasRoom) :
    s.startNext.movesLeft < s.movesLeft := by
  simp only [startNext, hpending, hroom, Bool.not_true, Bool.false_eq_true,
    if_false]
  split
  next job fetcher log heq =>
      have hle : job.movesLeft ≤ 2 := by
        unfold Job.movesLeft
        split <;> omega
      simp only [movesLeft, hpending, List.length_cons, jobsIn_append_going,
        Multiset.map_cons, Multiset.sum_cons]
      omega
  next fault fetcher log heq =>
      rw [movesLeft_handOut]
      simp only [movesLeft, hpending, List.length_cons, endOf,
        jobsIn_append_done]
      omega

/-- A job that goes on has fewer moves left. -/
theorem movesLeft_advance {i : ℕ} {room : Room} (hroom : s.rooms[i]? = some room)
    (hgoes : goesOnAlone s.fetcher room ∨ downloads room) :
    (s.advance i).movesLeft < s.movesLeft := by
  cases room with
  | done url body => simp [goesOnAlone, downloads] at hgoes
  | going job =>
      obtain ⟨others, hjobs, hgoing, hdone⟩ := exists_jobsIn_set hroom
      cases hphase : job.phase with
      | waiting number =>
          have hassigned : s.fetcher.pool.isAssigned number := by
            simpa [goesOnAlone, downloads, hphase] using hgoes
          have hresume : s.fetcher.resume job number =
              some (({ s.fetcher with
                pool := s.fetcher.pool.leave number } : Fetcher).send
                  job.url job.permit) := by
            simp only [Fetcher.resume, WorkerPool.poll, hassigned, if_true]
          simp only [advance, hroom, hphase, hresume, movesLeft, hgoing, hjobs,
            Multiset.map_cons, Multiset.sum_cons, Job.movesLeft, Fetcher.send]
          omega
      | downloading download =>
          simp only [advance, hroom, hphase]
          rw [movesLeft_handOut]
          simp only [movesLeft, endOf, hdone, hjobs, Multiset.map_cons,
            Multiset.sum_cons, Job.movesLeft, hphase]
          omega

theorem movesLeft_of_next? {m : Move} (h : s.next? = some m) :
    (s.move m).movesLeft < s.movesLeft := by
  unfold next? at h
  split at h
  next i hfind =>
      obtain rfl := Option.some.inj h
      obtain ⟨hlt, hgoes, -⟩ := List.findIdx?_eq_some_iff_getElem.mp hfind
      exact movesLeft_advance (List.getElem?_eq_getElem hlt) (Or.inl hgoes)
  next hnone =>
      split at h
      next hstart =>
          obtain rfl := Option.some.inj h
          simp only [Bool.and_eq_true, Bool.not_eq_true',
            List.isEmpty_eq_false_iff_exists_mem] at hstart
          obtain ⟨⟨url, hurl⟩, hroom⟩ := hstart
          obtain ⟨first, pending, hpending⟩ :=
            List.exists_cons_of_ne_nil (List.ne_nil_of_mem hurl)
          exact movesLeft_startNext hpending hroom
      next =>
          obtain ⟨i, hfind, rfl⟩ := Option.map_eq_some_iff.mp h
          obtain ⟨hlt, hgoes, -⟩ := List.findIdx?_eq_some_iff_getElem.mp hfind
          exact movesLeft_advance (List.getElem?_eq_getElem hlt) (Or.inr hgoes)

/-! ## The end -/

/-- While `held` workers are held from outside, a sweep waits for none of them,
since there are others, or because nobody may wait. -/
structure Lively (s : Sweep) (held : ℕ) : Prop where
  accounts : ∃ origin total, s.InOrder origin held total
  inTurn : s.fetcher.pool.InTurn
  orderly : s.Orderly
  workers : 0 < s.fetcher.pool.size
  others : held < s.fetcher.pool.size ∨ s.fetcher.pool.queueDepth = 0

variable {held : ℕ}

theorem Lively.move (h : s.Lively held) (m : Move) : (s.move m).Lively held := by
  obtain ⟨origin, total, haccounts⟩ := h.accounts
  have hsize := s.pool_size_move m
  have hdepth : (s.move m).fetcher.pool.queueDepth =
      s.fetcher.pool.queueDepth := congrArg Prod.snd (s.pool_terms_move m)
  refine ⟨⟨origin, total, haccounts.move m⟩, inTurn_move h.inTurn m,
    h.orderly.move m, ?_, ?_⟩
  · rw [hsize]
    exact h.workers
  · rw [hsize, hdepth]
    exact h.others

theorem Lively.clocked (h : s.Lively held) (now : ℕ) :
    (s.clocked now).Lively held := by
  -- The accounts may begin anywhere, and so they do at this reading.
  let origin := (s.clocked now).fetcher.situation (jobsIn s.rooms)
  obtain ⟨_, _, haccounts⟩ := h.accounts
  refine ⟨⟨origin, s.pending.length, le_rfl, haccounts.fetcher.staffed, [], ?_,
    rfl⟩, h.inTurn, h.orderly.clocked now, h.workers, h.others⟩
  exact (Nat.sub_self _).symm

theorem Lively.timed (h : s.Lively held) (ms : List (ℕ × Move)) :
    (s.timed ms).Lively held :=
  timed_induction (P := fun s => s.Lively held)
    (fun _ now h => h.clocked now) (fun _ m h => h.move m) h ms

/-- When a sweep has no next move, all its jobs wait for workers. -/
theorem waits_of_next?_eq_none (h : s.next? = none) {job : Job}
    (hjob : job ∈ jobsIn s.rooms) :
    ∃ number, job.place? = some number ∧
      ¬s.fetcher.pool.isAssigned number := by
  obtain ⟨room, hroom, hgoing⟩ := List.mem_filterMap.mp hjob
  unfold next? at h
  split at h
  next => cases h
  next halone =>
      split at h
      next => cases h
      next =>
          rw [Option.map_eq_none_iff] at h
          have hstays := List.findIdx?_eq_none_iff.mp halone room hroom
          have hwaits := List.findIdx?_eq_none_iff.mp h room hroom
          cases room with
          | done url body => cases hgoing
          | going other =>
              obtain rfl := Option.some.inj hgoing
              cases hphase : other.phase with
              | waiting number =>
                  refine ⟨number, by simp only [Job.place?, hphase], ?_⟩
                  simpa [goesOnAlone, hphase] using hstays
              | downloading download =>
                  simp [downloads, hphase] at hwaits

theorem pending_eq_nil_of_next?_eq_none (h : s.next? = none)
    (hroom : s.hasRoom) : s.pending = [] := by
  unfold next? at h
  split at h
  next => cases h
  next =>
      split at h
      next => cases h
      next hstart => simpa [hroom] using hstart

/-- A sweep that is not over has a job if it has no next move. -/
theorem Lively.exists_job (h : s.Lively held) (hover : ¬s.isOver)
    (hnext : s.next? = none) : ∃ job, job ∈ jobsIn s.rooms := by
  have hrooms : s.rooms ≠ [] := by
    intro hnil
    have hroom : s.hasRoom := by simp [hasRoom, hnil, h.workers]
    have hpending := pending_eq_nil_of_next?_eq_none hnext hroom
    exact hover (by simp [isOver, hpending, hnil])
  obtain ⟨first, rooms, hfirst⟩ := List.exists_cons_of_ne_nil hrooms
  cases first with
  | done url body =>
      have hhead := h.orderly.head url body
      rw [hfirst] at hhead
      exact absurd rfl hhead
  | going job =>
      refine ⟨job, ?_⟩
      rw [hfirst]
      exact List.mem_cons_self

/-- A sweep that is not over has a next move. -/
theorem Lively.exists_next? (h : s.Lively held) (hover : ¬s.isOver) :
    ∃ m, s.next? = some m := by
  cases hnext : s.next? with
  | some m => exact ⟨m, rfl⟩
  | none =>
      exfalso
      obtain ⟨origin, total, haccounts⟩ := h.accounts
      have hstaffed : s.Staffed held := haccounts.fetcher.staffed
      have hidle : Fetcher.busy (jobsIn s.rooms) = 0 := by
        apply Multiset.countP_eq_zero.mpr
        intro job hjob
        obtain ⟨number, hplace, -⟩ := waits_of_next?_eq_none hnext hjob
        simp [hplace]
      have hnone : ∀ t ∈ s.fetcher.pool.queue, ¬t.assigned := by
        intro t ht
        obtain ⟨job, hjob, hplace⟩ := hstaffed.exists_job ht
        obtain ⟨number, hwaits, hnot⟩ := waits_of_next?_eq_none hnext hjob
        obtain rfl := Option.some.inj (hplace.symm.trans hwaits)
        rwa [WorkerPool.Staffed.isAssigned_iff hstaffed ht] at hnot
      obtain ⟨t, ht⟩ : ∃ t, t ∈ s.fetcher.pool.queue := by
        obtain ⟨job, hjob⟩ := h.exists_job hover hnext
        obtain ⟨number, hplace, -⟩ := waits_of_next?_eq_none hnext hjob
        have hnumber : number ∈ Fetcher.places (jobsIn s.rooms) :=
          (Multiset.mem_filterMap _ _).mpr ⟨job, hjob, hplace⟩
        rw [← hstaffed.queued] at hnumber
        obtain ⟨t, ht, -⟩ := List.mem_map.mp hnumber
        exact ⟨t, ht⟩
      -- Nobody in the queue has a worker, so that none is free.
      have hfree : ¬0 < s.fetcher.pool.free := fun hfree =>
        hnone t ht (h.inTurn.working hfree t ht)
      have hassigned : s.fetcher.pool.queue.countP (·.assigned) = 0 :=
        List.countP_eq_zero.mpr hnone
      have hworkers := hstaffed.workers
      rcases h.others with hlt | hdepth
      · omega
      · have hroom := h.inTurn.room
        have hpos := List.length_pos_of_mem ht
        rw [hdepth, hstaffed.counted] at hroom
        omega

/-- If the first `fuel` moves are as many as are left, they lead to the end. -/
theorem Lively.isOver_run (h : s.Lively held) {fuel : ℕ}
    (hfuel : s.movesLeft ≤ fuel) : (s.run fuel).isOver := by
  induction fuel generalizing s with
  | zero =>
      by_contra hover
      simp only [run] at hover
      obtain ⟨m, hm⟩ := h.exists_next? hover
      have hlt := movesLeft_of_next? hm
      omega
  | succ fuel ih =>
      cases hnext : s.next? with
      | none =>
          simp only [run, hnext]
          by_contra hover
          obtain ⟨m, hm⟩ := h.exists_next? hover
          rw [hnext] at hm
          cases hm
      | some m =>
          rw [run.eq_def, hnext]
          have hlt := movesLeft_of_next? hnext
          exact ih (h.move m) (by omega)

/-- Whatever the clock says from now on, there are moves that lead to the
end. -/
theorem Lively.exists_timed_isOver (h : s.Lively held) (clock : ℕ → ℕ) :
    ∃ ms, ms.map Prod.fst = (List.range ms.length).map clock ∧
      (s.timed ms).isOver := by
  generalize hleft : s.movesLeft = left
  induction left using Nat.strong_induction_on generalizing s clock with
  | _ left ih =>
      by_cases hover : s.isOver
      · exact ⟨[], rfl, hover⟩
      · obtain ⟨m, hm⟩ := (h.clocked (clock 0)).exists_next? hover
        have hlt : ((s.clocked (clock 0)).move m).movesLeft < left :=
          hleft ▸ movesLeft_of_next? hm
        obtain ⟨ms, hclock, hend⟩ := ih _ hlt
          ((h.clocked (clock 0)).move m) (fun n => clock (n + 1)) rfl
        refine ⟨(clock 0, m) :: ms, ?_, hend⟩
        rw [List.map_cons, hclock, List.length_cons, List.range_succ_eq_map,
          List.map_cons, List.map_map]
        rfl

end Sweep

end Newsstand
