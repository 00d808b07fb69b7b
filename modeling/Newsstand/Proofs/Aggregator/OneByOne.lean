import Newsstand.Proofs.Aggregator.Feeds
import Newsstand.Proofs.Fetch.OneByOne

/-!
# Lists with one worker

A list fetches all documents at the same time, as far as there are workers.  With
one worker it says and does what one gets who fetches the URLs one after the
other, reads each document, and keeps the feeds with items.
-/

namespace Newsstand

namespace WorkerPool.Run

/-- If the one worker of a pool is free, nobody waits for it. -/
theorem InOrder.waiting_eq_nil {r : Run} (h : r.InOrder 0 0)
    (hsize : r.pool.size = 1) (hfree : r.pool.free = 1) : r.waiting = [] := by
  have hconserved := h.conserved
  have hworkers := hconserved.workers
  have hassigned : r.assigned = 0 := by omega
  rw [List.eq_nil_iff_forall_not_mem]
  intro caller hcaller
  have hworks := hconserved.working (by omega) caller hcaller
  exact List.countP_eq_zero.mp hassigned caller hcaller hworks

theorem InOrder.oneFree {r : Run} (h : r.InOrder 0 0) (hsize : r.pool.size = 1)
    (hfree : r.pool.free = 1) : r.pool.OneFree := by
  have hperm := h.perm
  rw [h.waiting_eq_nil hsize hfree, List.map_nil, List.perm_nil,
    List.map_eq_nil_iff] at hperm
  exact ⟨hsize, hfree, hperm⟩

end WorkerPool.Run

namespace Aggregator

/-- What a list over some URLs says if there are these documents, and leaves if
the fetcher is left like this, with the log. -/
def answer (a : Aggregator) (user : String) (urls : List String)
    (bodies : List (String × String)) (fetcher : Fetcher) (log : Log) :
    Option Subscriptions × Aggregator × Log :=
  let feeds := (bodies.map fun (url, body) => (Feed.read url body).1).filter
    Feed.hasItems
  (some ⟨user, feeds⟩, { a with fetcher },
    log ++ [reportAggregated user urls.length feeds.length])

theorem ofSweep_of_isOver (a : Aggregator) (user : String) (urls : List String)
    {s : Sweep} (hover : s.isOver) :
    a.ofSweep user urls s =
      a.answer user urls s.bodies s.fetcher s.log := by
  simp only [ofSweep, hover, if_true]
  rfl

/-- A list that a sweep leads to says and leaves what some calls one by one lead
to, apart from the reading of the clock in the end. -/
def SaysCalls (a : Aggregator) (user : String) (urls : List String)
    (s : Sweep) (calls : List Call) : Prop :=
  ∃ bodies fetcher log,
    a.fetcher.oneByOne Call.url Fetcher.fetchAt calls =
      (some bodies, fetcher, log) ∧
    a.ofSweep user urls s =
      a.answer user urls bodies (fetcher.clocked s.fetcher.now) log

theorem saysCalls_of_between {a : Aggregator} {s : Sweep} {calls : List Call}
    (h : s.Between a.fetcher calls) (hover : s.isOver) (user : String)
    (urls : List String) : a.SaysCalls user urls s calls := by
  obtain ⟨g, hcalls, hg⟩ := h.fetched
  refine ⟨s.bodies, g, s.log, hcalls, ?_⟩
  rw [ofSweep_of_isOver a user urls hover, ← hg]

/-- While no time passes, every sweep that is over has come to what the fetches
come to one by one, so a list says what they say. -/
theorem listBy_of_oneByOne {a : Aggregator} {user : String} {urls : List String}
    {bodies : List (String × String)} {fetcher : Fetcher} {log : Log}
    (hurls : a.urls user = .ok urls) (hpool : a.fetcher.pool.OneFree)
    (hfetched : a.fetcher.oneByOne id Fetcher.fetch urls =
      (some bodies, fetcher, log)) (moves : List Move)
    (hover : ((Sweep.ofUrls a.fetcher urls).moves moves).isOver) :
    a.listBy user moves =
      (.ok (a.answer user urls bodies fetcher log).1,
        (a.answer user urls bodies fetcher log).2) := by
  have hsame := Sweep.oneByOne_of_isOver hpool urls moves hover
  rw [hfetched] at hsame
  simp only [Prod.mk.injEq, Option.some.injEq] at hsame
  obtain ⟨rfl, rfl, rfl⟩ := hsame
  rw [listBy_of_ok hurls, ofSweep_of_isOver a user urls hover]

/-- On a pool whose one worker is free, a list says and does what the fetches of
its URLs say and do one by one, whichever moves are made for it.  If time passes
between the moves, these are the fetches that read the same clock, and there are
moves for any fetches. -/
theorem list_one_by_one (a : Aggregator) (user : String) (urls : List String)
    (name : String) (size queueDepth : ℕ) (steps : List WorkerPool.Step)
    (hurls : a.urls user = .ok urls) (hsize : max 1 size = 1) :
    let r := (WorkerPool.Run.start (.create name size queueDepth)).steps steps
    a.fetcher.pool = r.pool → r.pool.free = 1 →
      (∃ bodies fetcher log,
        a.fetcher.oneByOne id Fetcher.fetch urls = (some bodies, fetcher, log) ∧
        let answer := a.answer user urls bodies fetcher log
        a.list user = (.ok answer.1, answer.2) ∧
          ∀ moves, ((Sweep.ofUrls a.fetcher urls).moves moves).isOver →
            a.listBy user moves = (.ok answer.1, answer.2)) ∧
      (∀ moves, ((Sweep.ofUrls a.fetcher urls).timed moves).isOver →
        ∃ calls, calls.map Call.url = urls ∧
          (calls.flatMap Call.readings).Sublist
            (Sweep.twice (moves.map Prod.fst)) ∧
          a.SaysCalls user urls ((Sweep.ofUrls a.fetcher urls).timed moves)
            calls) ∧
      ∀ calls, calls.map Call.url = urls →
        ∃ moves, moves.map Prod.fst = calls.flatMap Call.readings ∧
          ((Sweep.ofUrls a.fetcher urls).timed moves).isOver ∧
          a.SaysCalls user urls ((Sweep.ofUrls a.fetcher urls).timed moves)
            calls := by
  intro r hpool hfree
  have hr : r.InOrder 0 0 :=
    (WorkerPool.Run.inOrder_start name size queueDepth).steps steps
  have hone : r.pool.size = 1 := by
    have hterms := WorkerPool.Run.steps_pool_terms
      (.start (.create name size queueDepth)) steps
    exact (congrArg Prod.fst hterms).trans hsize
  have honeFree : a.fetcher.pool.OneFree := hpool ▸ hr.oneFree hone hfree
  refine ⟨?_, fun moves hover => ?_, ?_⟩
  · have hworkers := hr.conserved.workers
    have hlively := lively_ofUrls hr hpool (hr.waiting_eq_nil hone hfree)
      (by omega) (Or.inl (by omega)) urls
    have hcomplete : (Sweep.complete a.fetcher urls).isOver :=
      hlively.isOver_run (Sweep.movesLeft_ofUrls a.fetcher urls).le
    obtain ⟨chosen, hchosen⟩ := Sweep.exists_run_eq_moves (3 * urls.length)
      (Sweep.ofUrls a.fetcher urls)
    rw [Sweep.complete, hchosen] at hcomplete
    have hfetched := Sweep.oneByOne_of_isOver honeFree urls chosen hcomplete
    refine ⟨_, _, _, hfetched, ?_, listBy_of_oneByOne hurls honeFree hfetched⟩
    rw [list_eq_listBy hurls hchosen]
    exact listBy_of_oneByOne hurls honeFree hfetched chosen hcomplete
  · have hsequential :=
      (Sweep.sequential_ofUrls a.fetcher urls).timed honeFree moves
    obtain ⟨calls, hcalls, hclock, hbetween⟩ := hsequential.of_isOver hover
    exact ⟨calls, hcalls, hclock, saysCalls_of_between hbetween hover user urls⟩
  · rintro calls rfl
    obtain ⟨hbetween, hpending⟩ :=
      (Sweep.between_ofUrls a.fetcher (calls.map Call.url)).timed_movesOf
        honeFree calls rfl
    have hover : ((Sweep.ofUrls a.fetcher (calls.map Call.url)).timed
        (Sweep.movesOf calls)).isOver := by
      simp [Sweep.isOver, hpending, hbetween.rooms]
    exact ⟨Sweep.movesOf calls, Sweep.map_fst_movesOf calls, hover,
      saysCalls_of_between hbetween hover user _⟩

/-- The breaker opens at one failure.  The first fetch fails, the second one is
refused, the third one is the trial that closes the breaker, and the fourth one
is ordinary again.  While no time passes, all fetches after the first one are
refused. -/
theorem list_one_by_one_past_opening :
    let feed := fun title =>
      ("<rss><item><title>" ++ title ++ "</title></item></rss>").toUTF8.toList
    let network : Network := .scripted
      [("http://a.test/", [.response 0 (.plain 503 [])]),
        ("http://b.test/", [.response 0 (.plain 200 (feed "b"))]),
        ("http://c.test/", [.response 0 (.plain 200 (feed "c"))]),
        ("http://d.test/", [.response 0 (.plain 200 (feed "d"))])]
    let urls :=
      ["http://a.test/", "http://b.test/", "http://c.test/", "http://d.test/"]
    let past : List Storage.Step := .openAs "store" {} ::
      urls.map fun url => .act "store" (.add "ann" url)
    let storage := ((Storage.Run.start ⟨[]⟩).steps past).storage
    let fetcher := Fetcher.ofConfig { workerPoolSize := 1 }
      { requestVolumeThreshold := 1, sleepWindowMs := 10 } network
    let a : Aggregator := ⟨storage, .volatile 0, fetcher⟩
    let calls : List Call := [⟨"http://a.test/", 0, 5⟩, ⟨"http://b.test/", 6, 6⟩,
      ⟨"http://c.test/", 20, 25⟩, ⟨"http://d.test/", 26, 30⟩]
    let result := fetcher.oneByOne Call.url Fetcher.fetchAt calls
    a.urls "ann" = .ok urls ∧ a.fetcher.pool.free = 1 ∧
      (∃ bodies fetcher log,
        a.fetcher.oneByOne id Fetcher.fetch urls = (some bodies, fetcher, log) ∧
        a.list "ann" = (.ok (a.answer "ann" urls bodies fetcher log).1,
          (a.answer "ann" urls bodies fetcher log).2)) ∧
      (a.list "ann").2.1.fetcher.breaker.refused = 3 ∧
      (∃ moves, moves.map Prod.fst = [0, 5, 6, 6, 20, 25, 26, 30] ∧
        ((Sweep.ofUrls fetcher urls).timed moves).isOver ∧
        a.SaysCalls "ann" urls ((Sweep.ofUrls fetcher urls).timed moves)
          calls) ∧
      result.2.1.requests.map (·.url) =
        ["http://a.test/", "http://c.test/", "http://d.test/"] ∧
      result.2.1.breaker.circuit = .closed ∧ result.2.1.breaker.refused = 1 := by
  intro feed network urls past storage fetcher a calls result
  have hurls : a.urls "ann" = .ok urls := by decide +kernel
  obtain ⟨⟨bodies, left, log, hfetched, hlist, -⟩, -, hcalls⟩ :=
    list_one_by_one a "ann" urls "feed-get" 1 20 [] hurls rfl rfl rfl
  refine ⟨hurls, rfl, ⟨bodies, left, log, hfetched, hlist⟩, ?_, hcalls calls rfl,
    ?_, ?_, ?_⟩
  all_goals decide +kernel

end Aggregator

end Newsstand
