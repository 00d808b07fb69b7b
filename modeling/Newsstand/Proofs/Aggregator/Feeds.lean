import Newsstand.Proofs.Aggregator.Rest
import Newsstand.Proofs.Fetch.Moves
import Newsstand.Proofs.Fetch.Progress
import Newsstand.Proofs.Fetch.Results
import Newsstand.Proofs.Store.Distinctness
import Newsstand.Proofs.WorkerPool.Conservation

/-!
# The feeds of a list

A list of the feeds of a user is made by fetches that go on at the same time,
share a breaker and a pool, and end in any order, while time passes.  What it
says does not depend on order and time: it is what one gets who takes the URLs
one by one, reads the document that the fetch of each has given, and keeps the
feeds with items.
-/

namespace Newsstand

namespace Feed

theorem readDocument_url {url : String} {cs : List Char} {feed : Feed}
    (h : readDocument url cs = .ok feed) : feed.url = url := by
  unfold readDocument at h
  split at h
  next => cases h
  next scanned hscanned =>
      split at h
      · split at h
        next => cases h
        next content hcontent =>
            cases h
            rfl
      · cases h
        rfl

/-- Whatever a document holds, its feed stands under the URL that was asked
for. -/
theorem read_url (url body : String) : (read url body).1.url = url := by
  simp only [read]
  split
  next => rfl
  next =>
      split
      next feed hfeed => exact readDocument_url hfeed
      next => rfl

/-- An empty document is a feed without items. -/
theorem hasItems_read_empty (url : String) :
    (read url "").1.hasItems = false := by
  simp [read, empty, hasItems]

end Feed

/-- The feeds with items among the documents that some fetches gave, each of
which is given by its URL and its result. -/
def feedsOf (results : List (String × Except FetchFault String)) : List Feed :=
  (results.map fun (url, result) =>
    (Feed.read url (documentOf result)).1).filter Feed.hasItems

section FeedsOf

variable (results : List (String × Except FetchFault String))

/-- Every feed stands under the URL of its fetch, in the order of the fetches. -/
theorem feedsOf_urls_sublist :
    ((feedsOf results).map (·.url)).Sublist (results.map Prod.fst) := by
  have hurls : (results.map fun (url, result) =>
      (Feed.read url (documentOf result)).1).map (·.url) =
        results.map Prod.fst := by
    rw [List.map_map]
    apply List.map_congr_left
    intro entry _
    exact Feed.read_url _ _
  rw [← hurls]
  exact List.filter_sublist.map _

theorem feedsOf_cons (url : String) (result : Except FetchFault String) :
    feedsOf ((url, result) :: results) =
      if (Feed.read url (documentOf result)).1.hasItems then
        (Feed.read url (documentOf result)).1 :: feedsOf results
      else feedsOf results := by
  rw [feedsOf, List.map_cons, List.filter_cons]
  rfl

/-- Fetches that failed make no difference to the feeds. -/
theorem feedsOf_filter_isOk :
    feedsOf (results.filter (·.2.isOk)) = feedsOf results := by
  induction results with
  | nil => rfl
  | cons entry results ih =>
      obtain ⟨url, result⟩ := entry
      rw [feedsOf_cons]
      cases result with
      | ok body => rw [List.filter_cons_of_pos rfl, feedsOf_cons, ih]
      | error fault =>
          have hempty := Feed.hasItems_read_empty url
          rw [List.filter_cons_of_neg Bool.false_ne_true, ih, documentOf,
            if_neg (by simp [hempty])]

end FeedsOf

namespace Aggregator

/-- The chronicle of the fetches for a list over some URLs. -/
def chronicle (a : Aggregator) (urls : List String) (moves : List (ℕ × Move)) :
    Sweep.Chronicle :=
  (Sweep.Chronicle.ofUrls a.fetcher urls).timed moves

/-- Each URL of a list has one of the results.  Its fetch was started once, in
the order of the URLs, and has ended once, and unless it was refused or turned
away it has ended with the result of a download for this URL. -/
structure Fetched (a : Aggregator) (urls : List String)
    (moves : List (ℕ × Move))
    (results : List (String × Except FetchFault String)) : Prop where
  listed : results.map Prod.fst = urls
  started : (a.chronicle urls moves).started = urls
  ended : (a.chronicle urls moves).ended.Perm results.zipIdx
  own : ∀ entry ∈ results, Sweep.Chronicle.Possible a.fetcher.config
    (Sweep.Chronicle.MetBy a.fetcher urls moves) entry.1 entry.2

/-- What a list over some URLs does, whichever moves are made for it at whichever
readings of the clock. -/
structure Lists (a : Aggregator) (user : String) (urls : List String)
    (moves : List (ℕ × Move)) : Prop where
  /-- Fetches are started in the order of the URLs. -/
  started : (a.chronicle urls moves).started <+: urls
  /-- No more of them go on than there are workers. -/
  going : (a.chronicle urls moves).started.length ≤
    (a.chronicle urls moves).ended.length + a.fetcher.pool.size
  /-- When the list is there, it says what the results of all fetches say, and
  those that failed make no difference. -/
  feeds : ∀ subscriptions,
    (a.listTimed user moves).1 = .ok (some subscriptions) →
    ∃ results, a.Fetched urls moves results ∧
      subscriptions = ⟨user, feedsOf results⟩ ∧
      feedsOf results = feedsOf (results.filter (·.2.isOk)) ∧
      (subscriptions.feeds.map (·.url)).Sublist urls ∧
      (subscriptions.feeds.map (·.url)).Nodup
  /-- If nobody else waits for a worker, and not all workers are held or nobody
  may wait, then the list comes, and it does so from wherever it has got and
  whatever the clock says from then on. -/
  comes : ∀ name size queueDepth (steps : List WorkerPool.Step),
    let r := (WorkerPool.Run.start (.create name size queueDepth)).steps steps
    a.fetcher.pool = r.pool → r.waiting = [] →
    r.holders.length < max 1 size ∨ queueDepth = 0 →
    (∃ subscriptions, (a.list user).1 = .ok (some subscriptions)) ∧
      ∀ clock : ℕ → ℕ, ∃ more subscriptions,
        more.map Prod.fst = (List.range more.length).map clock ∧
        (a.listTimed user (moves ++ more)).1 = .ok (some subscriptions)

variable {a : Aggregator} {user : String} {urls : List String}
  {moves : List (ℕ × Move)}

theorem listTimed_of_error {fault : StoreFault} (h : a.urls user = .error fault)
    (moves : List (ℕ × Move)) :
    a.listTimed user moves = (.error fault, a, []) := by
  simp only [listTimed, h]

/-- While no time passes, a sweep over the URLs makes its moves without a
clock. -/
theorem listBy_of_ok (h : a.urls user = .ok urls) (moves : List Move) :
    let result :=
      a.ofSweep user urls ((Sweep.ofUrls a.fetcher urls).moves moves)
    a.listBy user moves = (.ok result.1, result.2) := by
  have hmoves := (Sweep.ofUrls a.fetcher urls).timed_map_now moves
  have hnow : (Sweep.ofUrls a.fetcher urls).fetcher.now = a.fetcher.now := rfl
  rw [hnow] at hmoves
  simp only [listBy, listTimed, h, hmoves]

theorem list_eq_listBy (h : a.urls user = .ok urls) {chosen : List Move}
    (hchosen : (Sweep.ofUrls a.fetcher urls).run (3 * urls.length) =
      (Sweep.ofUrls a.fetcher urls).moves chosen) :
    a.list user = a.listBy user chosen := by
  rw [listBy_of_ok h]
  simp only [list, h, Sweep.complete, hchosen]

/-- A list whose sweep chooses its moves itself is made by some moves. -/
theorem exists_list_eq_listBy (a : Aggregator) (user : String) :
    ∃ moves, a.list user = a.listBy user moves := by
  cases hurls : a.urls user with
  | error fault =>
      exact ⟨[], by simp only [list, listBy, listTimed_of_error hurls, hurls]⟩
  | ok urls =>
      obtain ⟨chosen, hchosen⟩ :=
        Sweep.exists_run_eq_moves (3 * urls.length)
          (Sweep.ofUrls a.fetcher urls)
      exact ⟨chosen, list_eq_listBy hurls hchosen⟩

theorem chronicle_sweep (a : Aggregator) (urls : List String)
    (moves : List (ℕ × Move)) :
    (a.chronicle urls moves).sweep = (Sweep.ofUrls a.fetcher urls).timed moves :=
  Sweep.Chronicle.timed_sweep _ _

theorem listTimed_fst_of_ok (h : a.urls user = .ok urls)
    (moves : List (ℕ × Move)) :
    (a.listTimed user moves).1 =
      .ok (if (a.chronicle urls moves).sweep.isOver then
        some ⟨user, (a.chronicle urls moves).sweep.feeds⟩
      else none) := by
  simp only [listTimed, h, ofSweep, chronicle_sweep]
  split <;> rfl

theorem exists_faithful (a : Aggregator) (urls : List String)
    (moves : List (ℕ × Move)) :
    ∃ fetches, (a.chronicle urls moves).Faithful urls fetches :=
  Sweep.Chronicle.exists_faithful_timed a.fetcher urls moves

theorem length_started_le (a : Aggregator) (urls : List String)
    (moves : List (ℕ × Move)) :
    (a.chronicle urls moves).started.length ≤
      (a.chronicle urls moves).ended.length + a.fetcher.pool.size := by
  obtain ⟨fetches, hfaithful⟩ := a.exists_faithful urls moves
  have hrooms := hfaithful.length_started_le
  have hroom := ((Sweep.orderly_ofUrls a.fetcher urls).timed moves).room
  have hsize : ((Sweep.ofUrls a.fetcher urls).timed moves).fetcher.pool.size =
      a.fetcher.pool.size :=
    congrArg Prod.fst (Sweep.pool_terms_timed _ moves)
  rw [hsize, ← chronicle_sweep] at hroom
  omega

theorem fetched_of_isOver
    (hover : (a.chronicle urls moves).sweep.isOver) :
    ∃ results, a.Fetched urls moves results ∧
      (a.chronicle urls moves).sweep.feeds = feedsOf results := by
  obtain ⟨fetches, hfaithful⟩ := a.exists_faithful urls moves
  obtain ⟨results, hlisted, hstarted, hended, hbodies⟩ :=
    hfaithful.of_isOver hover
  refine ⟨results, ⟨hlisted, hstarted, hended, ?_⟩, ?_⟩
  · intro entry hentry
    have hgenuine := Sweep.Chronicle.genuine_timed a.fetcher urls moves
    obtain ⟨n, hn⟩ := List.mem_iff_getElem?.mp hentry
    have hmem : (entry, n) ∈ results.zipIdx :=
      List.mem_zipIdx_iff_getElem?.mpr hn
    exact hgenuine.ended (entry, n) (hended.mem_iff.mpr hmem)
  · rw [Sweep.feeds, hbodies, List.map_map]
    rfl

/-- A sweep begins in agreement with a pool for which nobody waits. -/
theorem staffed_ofUrls {f : Fetcher} {r : WorkerPool.Run} (hr : r.InOrder 0 0)
    (hpool : f.pool = r.pool) (hwaiting : r.waiting = [])
    (urls : List String) :
    (Sweep.ofUrls f urls).Staffed r.holders.length := by
  have hstaffed := hr.staffed
  have hplaces : r.places = 0 := by
    rw [WorkerPool.Run.places, hwaiting]
    rfl
  rw [hplaces, ← hpool] at hstaffed
  exact hstaffed

/-- A sweep is lively on a pool for which nobody waits, if not all workers are
held or nobody may wait. -/
theorem lively_ofUrls {f : Fetcher} {r : WorkerPool.Run} (hr : r.InOrder 0 0)
    (hpool : f.pool = r.pool) (hwaiting : r.waiting = [])
    (hworkers : 0 < r.pool.size)
    (hothers : r.holders.length < r.pool.size ∨ r.pool.queueDepth = 0)
    (urls : List String) :
    (Sweep.ofUrls f urls).Lively r.holders.length := by
  have haccounts : f.InOrder (f.situation 0) 0 r.holders.length 0 :=
    ⟨staffed_ofUrls hr hpool hwaiting urls, [], rfl, rfl⟩
  have hinTurn := hr.inTurn
  rw [← hpool] at hinTurn hworkers hothers
  exact ⟨⟨_, _, Sweep.inOrder_ofUrls haccounts urls⟩, hinTurn,
    Sweep.orderly_ofUrls f urls, hworkers, hothers⟩

theorem comes_of_lively {held : ℕ} (h : a.urls user = .ok urls)
    (hlively : (Sweep.ofUrls a.fetcher urls).Lively held) :
    ∃ subscriptions, (a.list user).1 = .ok (some subscriptions) := by
  have hover : (Sweep.complete a.fetcher urls).isOver :=
    hlively.isOver_run (Sweep.movesLeft_ofUrls a.fetcher urls).le
  refine ⟨⟨user, (Sweep.complete a.fetcher urls).feeds⟩, ?_⟩
  simp only [list, h, ofSweep, hover, if_true]

theorem comes_on_of_lively {held : ℕ} (h : a.urls user = .ok urls)
    (hlively : (Sweep.ofUrls a.fetcher urls).Lively held)
    (moves : List (ℕ × Move)) (clock : ℕ → ℕ) :
    ∃ more subscriptions,
      more.map Prod.fst = (List.range more.length).map clock ∧
      (a.listTimed user (moves ++ more)).1 = .ok (some subscriptions) := by
  obtain ⟨more, hclock, hover⟩ :=
    (hlively.timed moves).exists_timed_isOver clock
  rw [← Sweep.timed_append, ← chronicle_sweep] at hover
  refine ⟨more, ⟨user, (a.chronicle urls (moves ++ more)).sweep.feeds⟩,
    hclock, ?_⟩
  rw [listTimed_fst_of_ok h, if_pos hover]

theorem lists (hnodup : urls.Nodup) (h : a.urls user = .ok urls) :
    a.Lists user urls moves := by
  obtain ⟨fetches, hfaithful⟩ := a.exists_faithful urls moves
  refine ⟨hfaithful.started_isPrefix, a.length_started_le urls moves, ?_, ?_⟩
  · intro subscriptions hlist
    rw [listTimed_fst_of_ok h] at hlist
    have hsome := Except.ok.inj hlist
    split at hsome
    next hover =>
        obtain ⟨results, hfetched, hfeeds⟩ := fetched_of_isOver hover
        obtain rfl := Option.some.inj hsome
        have hsublist := feedsOf_urls_sublist results
        rw [hfetched.listed, ← hfeeds] at hsublist
        exact ⟨results, hfetched, by rw [hfeeds],
          (feedsOf_filter_isOk results).symm, hsublist,
          hnodup.sublist hsublist⟩
    next => cases hsome
  · intro name size queueDepth steps r hpool hwaiting hothers
    have hr : r.InOrder 0 0 :=
      (WorkerPool.Run.inOrder_start name size queueDepth).steps steps
    obtain ⟨hsize, hdepth⟩ :=
      Prod.mk.inj (WorkerPool.Run.steps_pool_terms
        (.start (.create name size queueDepth)) steps)
    have hworkers : 0 < r.pool.size :=
      hsize ▸ Nat.lt_of_lt_of_le Nat.one_pos (le_max_left 1 size)
    have hroom : r.holders.length < r.pool.size ∨ r.pool.queueDepth = 0 := by
      rw [hsize, hdepth]
      exact hothers
    have hlively := lively_ofUrls hr hpool hwaiting hworkers hroom urls
    exact ⟨comes_of_lively h hlively, comes_on_of_lively h hlively moves⟩

/-- Whatever stores have been through, whatever a fetcher has, and however much
time passes: a list of the feeds of a user fails with the fault of the store
before anything is fetched, or it says what the results of the fetches of all
URLs say. -/
theorem list_says_results (directory : Directory) (past : List Storage.Step)
    (store : Store) (fetcher : Fetcher) (user : String)
    (moves : List (ℕ × Move)) :
    let a : Aggregator :=
      ⟨((Storage.Run.start directory).steps past).storage, store, fetcher⟩
    (∃ chosen, a.list user = a.listBy user chosen) ∧
      (∀ fault, a.urls user = .error fault →
        a.listTimed user moves = (.error fault, a, [])) ∧
      ∀ urls, a.urls user = .ok urls → a.Lists user urls moves := by
  intro a
  refine ⟨a.exists_list_eq_listBy user, ?_, ?_⟩
  · intro fault hfault
    exact listTimed_of_error hfault moves
  · intro urls hurls
    have hsound : a.storage.Sound :=
      (Storage.sound_start directory).steps past
    exact lists (hsound.list hurls) hurls

/-- Of three fetches on two workers the second one fails before the first one
has ended, and opens the breaker.  When the third one is started, so much time
has passed that it is the trial.  A store that was never opened fails at once. -/
theorem list_says_results_out_of_order :
    let feed := fun title =>
      ("<rss><item><title>" ++ title ++ "</title></item></rss>").toUTF8.toList
    let network : Network := .scripted
      [("http://a.test/", [.response 0 (.plain 200 (feed "a"))]),
        ("http://b.test/", [.response 0 (.plain 503 [])]),
        ("http://c.test/", [.response 0 (.plain 200 (feed "c"))])]
    let fetcher := Fetcher.ofConfig { workerPoolSize := 2 }
      { requestVolumeThreshold := 1, sleepWindowMs := 10 } network
    let urls := ["http://a.test/", "http://b.test/", "http://c.test/"]
    let past : List Storage.Step := .openAs "store" {} ::
      urls.map fun url => .act "store" (.add "ann" url)
    let storage := ((Storage.Run.start ⟨[]⟩).steps past).storage
    let a : Aggregator := ⟨storage, .volatile 0, fetcher⟩
    let b : Aggregator := ⟨storage, .durable 0, fetcher⟩
    let before : List (ℕ × Move) :=
      [(0, .start), (1, .start), (5, .advance 1), (8, .advance 0), (20, .start)]
    let moves := before ++ [(25, .advance 0)]
    let subscriptions : Subscriptions := ⟨"ann",
      [⟨"http://a.test/", "a", [⟨"a", "", ""⟩]⟩,
        ⟨"http://c.test/", "c", [⟨"c", "", ""⟩]⟩]⟩
    a.urls "ann" = .ok urls ∧ a.Lists "ann" urls moves ∧
      (a.chronicle urls before).sweep.fetcher.breaker.circuit = .halfOpen ∧
      (a.listTimed "ann" moves).1 = .ok (some subscriptions) ∧
      (∃ results, a.Fetched urls moves results ∧
        subscriptions = ⟨"ann", feedsOf results⟩) ∧
      (∃ subscriptions, (a.list "ann").1 = .ok (some subscriptions)) ∧
      b.urls "ann" = .error .closed ∧
      b.listTimed "ann" moves = (.error .closed, b, []) := by
  intro feed network fetcher urls past storage a b before moves subscriptions
  have hurls : a.urls "ann" = .ok urls := by decide +kernel
  have hhalf : (a.chronicle urls before).sweep.fetcher.breaker.circuit =
      .halfOpen := by decide +kernel
  have hlist : (a.listTimed "ann" moves).1 = .ok (some subscriptions) := by
    decide +kernel
  have hclosed : b.urls "ann" = .error .closed := by decide +kernel
  obtain ⟨-, -, hlists⟩ :=
    list_says_results ⟨[]⟩ past (.volatile 0) fetcher "ann" moves
  obtain ⟨-, herror, -⟩ :=
    list_says_results ⟨[]⟩ past (.durable 0) fetcher "ann" moves
  have hlisted := hlists urls hurls
  obtain ⟨results, hfetched, hfeeds, -⟩ := hlisted.feeds subscriptions hlist
  have hcomes := hlisted.comes "feed-get" 2 20 [] rfl rfl (Or.inl (by decide))
  exact ⟨hurls, hlisted, hhalf, hlist, ⟨results, hfetched, hfeeds⟩, hcomes.1,
    hclosed, herror _ hclosed⟩

end Aggregator

end Newsstand
