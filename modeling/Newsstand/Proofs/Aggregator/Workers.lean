import Newsstand.Proofs.Aggregator.Feeds
import Newsstand.Proofs.Fetch.Grants

/-!
# The workers of a list

A list starts no more fetches than there are workers, and yet some of its
fetches may find none free, since workers may be held by others.  These fetches
wait.  None of them is turned away as long as the queue has a place for each
worker, and if the moves of the list are in line, a place for each worker that
is held by others is enough.  Out of line it is not.  None of them waits if no
worker is held by others.
-/

namespace Newsstand.Aggregator

open Sweep

section Beginning

variable {f : Fetcher} {r : WorkerPool.Run} (hr : r.InOrder 0 0)
  (hpool : f.pool = r.pool) (hwaiting : r.waiting = [])

include hr hpool hwaiting

/-- A line begins in good order on a pool for which nobody waits. -/
theorem sound_ofUrls (urls : List String) :
    (Line.ofUrls f urls).Sound r.holders.length := by
  have hstaffed := staffed_ofUrls hr hpool hwaiting urls
  have hinTurn := hr.inTurn
  rw [← hpool] at hinTurn
  refine ⟨hstaffed, hinTurn, orderly_ofUrls f urls, ?_, trivial⟩
  have hqueue : f.pool.queue = [] := WorkerPool.Staffed.queue_eq_nil hstaffed
  change [] = f.pool.assignedNumbers
  rw [WorkerPool.assignedNumbers, hqueue]
  rfl

theorem admitting_ofUrls (urls : List String) :
    (Chronicle.ofUrls f urls).Admitting f.config r.holders.length :=
  ⟨staffed_ofUrls hr hpool hwaiting urls, orderly_ofUrls f urls,
    Chronicle.genuine_ofUrls f urls, Chronicle.turnsNoneAway_ofUrls f urls⟩

theorem granting_ofUrls (hheld : r.holders.length ≤ r.pool.queueDepth)
    (urls : List String) :
    (Line.ofUrls f urls).Granting f.config r.holders.length := by
  rw [← hpool] at hheld
  exact ⟨sound_ofUrls hr hpool hwaiting urls, hheld,
    admitting_ofUrls hr hpool hwaiting urls⟩

theorem unhindered_ofUrls (hheld : r.holders = []) (urls : List String) :
    (Chronicle.ofUrls f urls).Unhindered f.config := by
  have hadmitting := admitting_ofUrls hr hpool hwaiting urls
  rw [hheld] at hadmitting
  exact ⟨hadmitting, fun _ hjob => absurd hjob (Multiset.notMem_zero _)⟩

/-- What a sweep comes to by itself, it can come to in line. -/
theorem exists_inLine_complete (urls : List String) :
    ∃ moves, InLine f urls moves ∧
      (Sweep.ofUrls f urls).timed moves = Sweep.complete f urls := by
  obtain ⟨moves, l, hmakes, hl⟩ :=
    (sound_ofUrls hr hpool hwaiting urls).exists_makes_run .none rfl
      (3 * urls.length)
  refine ⟨moves, ⟨l, hmakes⟩, ?_⟩
  rw [hmakes.chronicle_eq, Chronicle.timed_sweep] at hl
  exact hl

end Beginning

/-- While some workers are held by others, and nobody else waits: a list comes if
not all workers are held.  None of its fetches is turned away if the queue has
places for as many as there are workers, or for as many as are held when the
moves are in line, as those are that a sweep chooses itself.  And none of them
waits if no worker is held. -/
theorem list_turns_none_away (a : Aggregator) (user : String)
    (urls : List String) (name : String) (size queueDepth : ℕ)
    (steps : List WorkerPool.Step) (hurls : a.urls user = .ok urls) :
    let r := (WorkerPool.Run.start (.create name size queueDepth)).steps steps
    a.fetcher.pool = r.pool → r.waiting = [] →
      (r.holders.length < max 1 size →
        ∃ subscriptions, (a.list user).1 = .ok (some subscriptions)) ∧
      (max 1 size ≤ queueDepth → ∀ moves,
        (a.chronicle urls moves).TurnsNoneAway) ∧
      (r.holders.length ≤ queueDepth → ∀ moves, InLine a.fetcher urls moves →
        (a.chronicle urls moves).TurnsNoneAway) ∧
      (∃ moves, InLine a.fetcher urls moves ∧
        (Sweep.ofUrls a.fetcher urls).timed moves =
          Sweep.complete a.fetcher urls) ∧
      (r.holders = [] → ∀ moves,
        let c := a.chronicle urls moves
        c.TurnsNoneAway ∧ ∀ job ∈ jobsIn c.sweep.rooms, job.place? = none) := by
  intro r hpool hwaiting
  have hr : r.InOrder 0 0 :=
    (WorkerPool.Run.inOrder_start name size queueDepth).steps steps
  obtain ⟨hsize, hdepth⟩ :=
    Prod.mk.inj (WorkerPool.Run.steps_pool_terms
      (.start (.create name size queueDepth)) steps)
  refine ⟨fun hheld => ?_, fun hample moves => ?_, fun hheld moves hline => ?_,
    exists_inLine_complete hr hpool hwaiting urls, fun hheld moves => ?_⟩
  · have hworkers : 0 < r.pool.size :=
      hsize ▸ Nat.lt_of_lt_of_le Nat.one_pos (le_max_left 1 size)
    have hlively := lively_ofUrls hr hpool hwaiting hworkers
      (Or.inl (hsize ▸ hheld)) urls
    exact comes_of_lively hurls hlively
  · have hroom : r.pool.size ≤ r.pool.queueDepth :=
      hsize.trans_le (hample.trans_eq hdepth.symm)
    rw [← hpool] at hroom
    exact ((admitting_ofUrls hr hpool hwaiting urls).timed hroom
      moves).turnsNoneAway
  · obtain ⟨l, hmakes⟩ := hline
    have hgranting := granting_ofUrls hr hpool hwaiting (hdepth ▸ hheld) urls
    have hadmitting := (hgranting.makes hmakes).admitting
    rw [hmakes.chronicle_eq] at hadmitting
    exact hadmitting.turnsNoneAway
  · have hunhindered :=
      (unhindered_ofUrls hr hpool hwaiting hheld urls).timed moves
    exact ⟨hunhindered.admitting.turnsNoneAway, hunhindered.noneWaits⟩

/-- One of three workers is held, and one fetch may wait.  The first fetch ends and
its worker goes to the third one, which waits.  The fourth one is called up, and
in its turn, behind the third one, it waits itself.  With one more worker held
and places for three, nobody is turned away out of turn either.  On a pool of
two free workers on which nobody may wait, the fetches need not. -/
theorem list_turns_none_away_in_line :
    let urls :=
      ["http://a.test/", "http://b.test/", "http://c.test/", "http://d.test/"]
    let past : List Storage.Step := .openAs "store" {} ::
      urls.map fun url => .act "store" (.add "ann" url)
    let storage := ((Storage.Run.start ⟨[]⟩).steps past).storage
    let f := Fetcher.ofConfig {} {} (.scripted [])
    let one : List WorkerPool.Step := [.acquire "other"]
    let two : List WorkerPool.Step := [.acquire "other", .acquire "another"]
    let r := (WorkerPool.Run.start (.create "pool" 3 1)).steps one
    let t := (WorkerPool.Run.start (.create "pool" 3 3)).steps two
    let a : Aggregator := ⟨storage, .volatile 0, { f with pool := r.pool }⟩
    let b : Aggregator := ⟨storage, .volatile 0, { f with pool := t.pool }⟩
    let c : Aggregator :=
      ⟨storage, .volatile 0, { f with pool := .create "pool" 2 0 }⟩
    let moves : List (ℕ × Move) :=
      [(0, .start), (0, .start), (0, .start), (1, .advance 0), (2, .advance 1),
        (2, .start)]
    let hasty : List (ℕ × Move) :=
      [(0, .start), (0, .start), (0, .start), (1, .advance 0), (1, .start)]
    a.urls "ann" = .ok urls ∧ r.holders.length = 1 ∧
      (∃ subscriptions, (a.list "ann").1 = .ok (some subscriptions)) ∧
      InLine a.fetcher urls moves ∧
      (a.chronicle urls moves).TurnsNoneAway ∧
      (a.chronicle urls moves).sweep.fetcher.pool.waiting = 1 ∧
      t.holders.length = 2 ∧ (b.chronicle urls hasty).TurnsNoneAway ∧
      ∀ job ∈ jobsIn (c.chronicle urls [(0, .start), (0, .start)]).sweep.rooms,
        job.place? = none := by
  intro urls past storage f one two r t a b c moves hasty
  have hurls : a.urls "ann" = .ok urls := by decide +kernel
  have hurlsb : b.urls "ann" = .ok urls := by decide +kernel
  have hurlsc : c.urls "ann" = .ok urls := by decide +kernel
  let busy : Line := ⟨a.chronicle urls (moves.take 3), []⟩
  let calledUp := ((busy.clocked 1).advance 0).call
  let taken := (calledUp.clocked 2).advance 1
  have hbusy : (Line.ofUrls a.fetcher urls).Makes (moves.take 3) busy :=
    (((((Line.Makes.none.call (by decide) (by decide)).call (by decide)
      (by decide)).call (by decide) (by decide)).start 0 rfl).start 0 rfl).start
        0 rfl
  have htaken : (Line.ofUrls a.fetcher urls).Makes (moves.take 5) taken :=
    ((hbusy.advance 1 0).call (by decide +kernel) (by decide +kernel)).advance
      2 1
  have hturn : taken.turns = [.start] := by decide +kernel
  have hline : InLine a.fetcher urls moves := ⟨_, htaken.start 2 hturn⟩
  obtain ⟨hcomes, -, hnone, -⟩ :=
    list_turns_none_away a "ann" urls "pool" 3 1 one hurls rfl rfl
  obtain ⟨-, hample, -⟩ :=
    list_turns_none_away b "ann" urls "pool" 3 3 two hurlsb rfl rfl
  obtain ⟨-, -, -, -, hwaits⟩ :=
    list_turns_none_away c "ann" urls "pool" 2 0 [] hurlsc rfl rfl
  exact ⟨hurls, rfl, hcomes (by decide), hline, hnone (by decide) moves hline,
    by decide +kernel, rfl, hample (by decide) hasty, (hwaits rfl _).2⟩

/-- Two of three workers are held, and two fetches may wait.  The first download
takes some time; the others fail at once, as what they ask for is no URL.  When
the first one has ended, each of the others gets the worker that the one before
it gives back, all in one go.  After 128 of them the task has to pause: the next
fetch, whose worker has come, is put off, as is the one that waits behind it, and
the last one is started out of its turn and turned away. -/
theorem list_turns_away_out_of_line :
    let urls := "http://a.test/" :: (List.range 131).map toString
    let past : List Storage.Step := .openAs "store" {} ::
      urls.map fun url => .act "store" (.add "ann" url)
    let storage := ((Storage.Run.start ⟨[]⟩).steps past).storage
    let network : Network := .scripted
      [("http://a.test/", [.response 200 (.plain 200 [])])]
    let f := Fetcher.ofConfig {} { requestVolumeThreshold := 1000 } network
    let steps : List WorkerPool.Step := [.acquire "other", .acquire "another"]
    let r := (WorkerPool.Run.start (.create "feed-get" 3 2)).steps steps
    let a : Aggregator := ⟨storage, .volatile 0, { f with pool := r.pool }⟩
    let moves : List (ℕ × Move) :=
      [(0, .start), (0, .start), (0, .start), (200, .advance 0)] ++
        (List.replicate 128
          [(200, .advance 0), (200, .advance 0), (200, .start)]).flatten ++
        [(200, .start)]
    a.urls "ann" = .ok urls ∧ a.fetcher.pool = r.pool ∧ r.waiting = [] ∧
      r.holders.length = 2 ∧ ¬(a.chronicle urls moves).TurnsNoneAway := by
  intro urls past storage network f steps r a moves
  refine ⟨by decide +kernel, rfl, rfl, rfl, fun hnone => ?_⟩
  have hlast : (a.chronicle urls moves).ended.getLast? =
      some (("130", .error (.rejected "feed-get")), 131) := by decide +kernel
  exact hnone _ (List.mem_of_getLast? hlast) "feed-get" rfl

end Newsstand.Aggregator
