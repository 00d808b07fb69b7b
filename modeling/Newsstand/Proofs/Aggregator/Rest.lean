import Newsstand.Aggregator.Session
import Newsstand.Proofs.Breaker.Transition
import Newsstand.Proofs.Fetch.Sweep

/-!
# Sessions at rest

Between the steps of a session no fetch goes on.  Whatever its fetches were
given on the way has come back by then: workers, places in the queue, and
permits of the breaker, however their downloads ended, in whatever order the
fetches of a list went on, and however much time passed meanwhile.  The only
workers that are still in use are those that have been taken from outside, as
the replies of the session tell.

A step that waits for what never comes is not completed, and no other step is
taken after it.
-/

namespace Newsstand

namespace Aggregator

theorem subscribe_fetcher (a : Aggregator) (user url : String) :
    (a.subscribe user url).2.1.fetcher = a.fetcher := by
  unfold subscribe
  split
  · rfl
  · split <;> rfl

theorem unsubscribe_fetcher (a : Aggregator) (user url : String) :
    (a.unsubscribe user url).2.1.fetcher = a.fetcher := by
  unfold unsubscribe
  split
  · rfl
  · split <;> rfl

theorem subscribeAll_fetcher (a : Aggregator) (user : String)
    (urls : List String) :
    (a.subscribeAll user urls).2.1.fetcher = a.fetcher := by
  induction urls generalizing a with
  | nil => rfl
  | cons url urls ih =>
      have hfirst := a.subscribe_fetcher user url
      simp only [subscribeAll]
      split
      next next log heq =>
          rw [heq] at hfirst
          exact (ih next).trans hfirst
      next fault next log heq =>
          rw [heq] at hfirst
          exact (ih next).trans hfirst

theorem importOutline_fetcher (a : Aggregator) (user : String)
    (file : FileRead) :
    (a.importOutline user file).2.1.fetcher = a.fetcher := by
  unfold importOutline
  split
  · rfl
  · exact a.subscribeAll_fetcher user _

/-- A sweep that gives a list its feeds has come to its end. -/
theorem ofSweep_eq_some {a b : Aggregator} {user : String} {urls : List String}
    {sweep : Sweep} {subscriptions : Subscriptions} {log : Log}
    (h : a.ofSweep user urls sweep = (some subscriptions, b, log)) :
    sweep.isOver ∧ b = { a with fetcher := sweep.fetcher } := by
  unfold ofSweep at h
  split at h
  next hover =>
      cases h
      exact ⟨hover, rfl⟩
  next => cases h

section Listed

variable {a b : Aggregator} {user : String} {subscriptions : Subscriptions}
  {log : Log}

theorem list_eq_some
    (hlist : a.list user = (.ok (some subscriptions), b, log)) :
    ∃ urls, a.urls user = .ok urls ∧
      (Sweep.complete a.fetcher urls).isOver ∧
      b = { a with fetcher := (Sweep.complete a.fetcher urls).fetcher } := by
  unfold list at hlist
  split at hlist
  next => cases hlist
  next urls hurls =>
      simp only [Prod.mk.injEq, Except.ok.injEq] at hlist
      obtain ⟨hover, hb⟩ :=
        ofSweep_eq_some (Prod.ext hlist.1 (Prod.ext hlist.2.1 rfl))
      exact ⟨urls, hurls, hover, hb⟩

theorem listTimed_eq_some {moves : List (ℕ × Move)}
    (hlist : a.listTimed user moves = (.ok (some subscriptions), b, log)) :
    ∃ urls, a.urls user = .ok urls ∧
      ((Sweep.ofUrls a.fetcher urls).timed moves).isOver ∧
      b = { a with
        fetcher := ((Sweep.ofUrls a.fetcher urls).timed moves).fetcher } := by
  unfold listTimed at hlist
  split at hlist
  next => cases hlist
  next urls hurls =>
      simp only [Prod.mk.injEq, Except.ok.injEq] at hlist
      obtain ⟨hover, hb⟩ :=
        ofSweep_eq_some (Prod.ext hlist.1 (Prod.ext hlist.2.1 rfl))
      exact ⟨urls, hurls, hover, hb⟩

end Listed

/-- When the URLs of a user cannot be read, a list changes nothing. -/
theorem list_eq_error {a b : Aggregator} {user : String} {fault : StoreFault}
    {log : Log} (hlist : a.list user = (.error fault, b, log)) :
    a.urls user = .error fault ∧ b = a := by
  unfold list at hlist
  split at hlist
  next other hurls =>
      cases hlist
      exact ⟨hurls, rfl⟩
  next => cases hlist

end Aggregator

namespace Session

/-- The number of fetches of a step. -/
def fetches (s : Session) : Step → ℕ
  | .fetch _ => 1
  | .tryFetch _ => 1
  | .list user =>
      match s.aggregator.urls user with
      | .ok urls => urls.length
      | .error _ => 0
  | _ => 0

theorem fetches_list_of_ok {s : Session} {user : String} {urls : List String}
    (hurls : s.aggregator.urls user = .ok urls) :
    s.fetches (.list user) = urls.length := by
  simp only [fetches, hurls]

theorem fetches_list_of_error {s : Session} {user : String}
    {fault : StoreFault} (hurls : s.aggregator.urls user = .error fault) :
    s.fetches (.list user) = 0 := by
  simp only [fetches, hurls]

/-- Whether there is a reply in the end. -/
def Reply.comes : Reply → Bool
  | .never => false
  | _ => true

/-- The reply on a fetch that says what is at fault. -/
def Reply.ofFetch : Except FetchFault String → Reply
  | .ok document => .body document
  | .error fault => .fetchFault fault

/-- The session at another reading of the clock. -/
def clocked (s : Session) (now : ℕ) : Session :=
  s.withFetcher (s.aggregator.fetcher.clocked now)

/-- The session completes a step.  While it fetches, time may pass, and the
fetches of a list may go on in any order. -/
inductive Completes (s : Session) : Step → Reply → Session → Prop where
  | step (step : Step) (hreply : (s.step step).1.comes) :
      Completes s step (s.step step).1 (s.step step).2.1
  | fetched {call : Call} {body : String} {fetcher : Fetcher} {log : Log}
      (hreadings : ∀ now ∈ call.readings, now < UInt64.size)
      (hfetch : s.aggregator.fetcher.fetchAt call =
        (some body, fetcher, log)) :
      Completes s (.fetch call.url) (.body body) (s.withFetcher fetcher)
  | tried {call : Call} {result : Except FetchFault String}
      {fetcher : Fetcher} {log : Log}
      (hreadings : ∀ now ∈ call.readings, now < UInt64.size)
      (hfetch : s.aggregator.fetcher.tryFetchAt call =
        (some result, fetcher, log)) :
      Completes s (.tryFetch call.url) (.ofFetch result) (s.withFetcher fetcher)
  | listed {user : String} {moves : List (ℕ × Move)}
      {subscriptions : Subscriptions} {aggregator : Aggregator} {log : Log}
      (hreadings : ∀ m ∈ moves, m.1 < UInt64.size)
      (hlist : s.aggregator.listTimed user moves =
        (.ok (some subscriptions), aggregator, log)) :
      Completes s (.list user) (.feeds subscriptions) { s with aggregator }

/-- The steps that lead from one session to another one with their replies,
from the latest to the first, and the number of fetches among them.  Time may
pass between steps, whether or not the clock is moved by hand. -/
inductive Leads (s : Session) : List (Step × Reply) → ℕ → Session → Prop where
  | start : Leads s [] 0 s
  | next {past : List (Step × Reply)} {n : ℕ} {t u : Session} {step : Step}
      {reply : Reply} (hpast : Leads s past n t)
      (hstep : t.Completes step reply u) :
      Leads s ((step, reply) :: past) (n + t.fetches step) u
  | passed {past : List (Step × Reply)} {n : ℕ} {t : Session} {now : ℕ}
      (hpast : Leads s past n t) (hnow : now < UInt64.size) :
      Leads s past n (t.clocked now)

/-- Some steps with their replies, from the first to the latest. -/
def record (s : Session) : List Step → List (Step × Reply)
  | [] => []
  | step :: rest => (step, (s.step step).1) :: (s.step step).2.1.record rest

/-- Steps that are taken one after another lead on if all of them are
completed. -/
theorem Leads.steps {s t : Session} {past : List (Step × Reply)} {n : ℕ}
    (h : s.Leads past n t) {steps : List Step}
    (hreplies : (t.record steps).all (·.2.comes)) :
    ∃ m, s.Leads ((t.record steps).reverse ++ past) m (t.steps steps) := by
  induction steps generalizing t past n with
  | nil => exact ⟨n, h⟩
  | cons step rest ih =>
      simp only [record, List.all_cons, Bool.and_eq_true] at hreplies
      obtain ⟨m, hm⟩ := ih (h.next (.step step hreplies.1)) hreplies.2
      refine ⟨m, ?_⟩
      rw [record, List.reverse_cons, List.append_assoc]
      exact hm

/-- The number of workers that were taken from outside. -/
def taken : List (Step × Reply) → ℕ
  | [] => 0
  | (.hold, .flag true) :: past => taken past + 1
  | _ :: past => taken past

/-- The number of workers that were given back from outside. -/
def givenBack : List (Step × Reply) → ℕ
  | [] => 0
  | (.release, .flag true) :: past => givenBack past + 1
  | _ :: past => givenBack past

/-! ## Accounts -/

/-- No job is left, the breaker has been asked `n` times, and the replies tell
how many workers are held. -/
structure Accounted (origin : Breaker.Situation) (s : Session)
    (past : List (Step × Reply)) (n : ℕ) : Prop where
  fetcher : s.aggregator.fetcher.InOrder origin 0 s.held n
  held : s.held + givenBack past = taken past

variable {origin : Breaker.Situation} {s t u : Session}
  {past : List (Step × Reply)} {n : ℕ}

theorem Accounted.listed (h : s.Accounted origin past n) {user : String}
    {urls : List String} {sweep : Sweep} {subscriptions : Subscriptions}
    (hurls : s.aggregator.urls user = .ok urls)
    (hsweep : sweep.InOrder origin s.held (n + urls.length))
    (hover : sweep.isOver) :
    Accounted origin (s.withFetcher sweep.fetcher)
      ((.list user, .feeds subscriptions) :: past)
      (n + s.fetches (.list user)) := by
  refine ⟨?_, h.held⟩
  rw [fetches_list_of_ok hurls]
  exact hsweep.of_isOver hover

theorem Accounted.hold (h : s.Accounted origin past n) :
    s.hold.2.1.Accounted origin ((.hold, s.hold.1) :: past) n := by
  have hfetcher := h.fetcher
  have hheld := h.held
  obtain ⟨hfree, hacquire⟩ | ⟨-, -, hacquire⟩ | ⟨-, -, hacquire⟩ :=
    s.aggregator.fetcher.pool.acquire_cases
  · simp only [Session.hold, hacquire]
    refine ⟨hfetcher.takeFree hfree, ?_⟩
    simp only [givenBack, taken]
    omega
  · simp only [Session.hold, hacquire]
    exact ⟨hfetcher, hheld⟩
  · simp only [Session.hold, hacquire]
    exact ⟨⟨hfetcher.staffed.enqueue.cancel, hfetcher.reached⟩, hheld⟩

theorem Accounted.release (h : s.Accounted origin past n) :
    (s.step .release).2.1.Accounted origin
      ((.release, (s.step .release).1) :: past) n := by
  have hfetcher := h.fetcher
  have hheld := h.held
  by_cases hnone : s.held = 0
  · simp only [Session.step, if_pos hnone]
    exact ⟨hfetcher, hheld⟩
  · simp only [Session.step, if_neg hnone]
    have hsucc : s.held = (s.held - 1) + 1 := by omega
    rw [hsucc] at hfetcher
    refine ⟨hfetcher.release, ?_⟩
    simp only [givenBack, taken]
    omega

theorem Accounted.step (h : s.Accounted origin past n) (step : Step)
    (hreply : (s.step step).1.comes) :
    (s.step step).2.1.Accounted origin ((step, (s.step step).1) :: past)
      (n + s.fetches step) := by
  have hfetcher := h.fetcher
  have hheld := h.held
  cases step with
  | subscribe user url =>
      refine ⟨?_, hheld⟩
      simp only [Session.step, Aggregator.subscribe_fetcher]
      exact hfetcher
  | unsubscribe user url =>
      refine ⟨?_, hheld⟩
      simp only [Session.step, Aggregator.unsubscribe_fetcher]
      exact hfetcher
  | urls user =>
      simp only [Session.step]
      split <;> exact ⟨hfetcher, hheld⟩
  | list user =>
      simp only [Session.step] at hreply ⊢
      split
      next subscriptions aggregator log heq =>
          obtain ⟨urls, hurls, hover, rfl⟩ := Aggregator.list_eq_some heq
          exact h.listed hurls
            ((Sweep.inOrder_ofUrls hfetcher urls).run _) hover
      next aggregator log heq => simp [heq, Reply.comes] at hreply
      next fault aggregator log heq =>
          obtain ⟨hurls, rfl⟩ := Aggregator.list_eq_error heq
          rw [fetches_list_of_error hurls]
          exact ⟨hfetcher, hheld⟩
  | fetch url =>
      simp only [Session.step] at hreply ⊢
      split
      next body fetcher log heq => exact ⟨hfetcher.fetch heq, hheld⟩
      next fetcher log heq => simp [heq, Reply.comes] at hreply
  | tryFetch url =>
      simp only [Session.step] at hreply ⊢
      split
      next body fetcher log heq => exact ⟨hfetcher.tryFetch heq, hheld⟩
      next fault fetcher log heq => exact ⟨hfetcher.tryFetch heq, hheld⟩
      next fetcher log heq => simp [heq, Reply.comes] at hreply
  | importOutline user file =>
      have hsame := s.aggregator.importOutline_fetcher user file
      simp only [Session.step]
      split
      next summary aggregator log heq =>
          rw [heq] at hsame
          exact ⟨hsame ▸ hfetcher, hheld⟩
      next fault aggregator log heq =>
          rw [heq] at hsame
          exact ⟨hsame ▸ hfetcher, hheld⟩
  | health => exact ⟨hfetcher, hheld⟩
  | advance ms =>
      simp only [Session.step]
      split
      · exact ⟨hfetcher.wait ms, hheld⟩
      · exact ⟨hfetcher, hheld⟩
  | close => exact ⟨hfetcher, hheld⟩
  | hold => exact h.hold
  | release => exact h.release

/-- In a session that has just started, nothing is in use. -/
theorem accounted_of_start {storage : Storage} {network : Network}
    {config : Config} {byHand : Bool} {log : Log}
    (hstart : start storage network config byHand = (.ok s, log)) :
    s.Accounted (.start config.fetch.group config.breaker 0) [] 0 := by
  unfold start Aggregator.setUp at hstart
  split at hstart
  next => cases hstart
  next aggregator next setUpLog heq =>
      cases hstart
      refine ⟨?_, rfl⟩
      split at heq
      next => cases heq
      next =>
          split at heq
          next => cases heq
          next =>
              cases heq
              exact Fetcher.inOrder_ofConfig _ _ _

theorem Accounted.completes (h : s.Accounted origin past n) {step : Step}
    {reply : Reply} (hstep : s.Completes step reply t) :
    t.Accounted origin ((step, reply) :: past) (n + s.fetches step) := by
  have hfetcher := h.fetcher
  cases hstep with
  | step step hreply => exact h.step step hreply
  | @fetched call body fetcher log hreadings hfetch =>
      have hcall :=
        Call.timedFrom_of_readings hreadings s.aggregator.fetcher.now
      exact ⟨hfetcher.fetchAt hcall hfetch, h.held⟩
  | @tried call result fetcher log hreadings hfetch =>
      have hcall :=
        Call.timedFrom_of_readings hreadings s.aggregator.fetcher.now
      exact ⟨hfetcher.tryFetchAt hcall hfetch, h.held⟩
  | @listed user moves subscriptions aggregator log hreadings hlist =>
      obtain ⟨urls, hurls, hover, rfl⟩ := Aggregator.listTimed_eq_some hlist
      exact h.listed hurls
        ((Sweep.inOrder_ofUrls hfetcher urls).timed hreadings) hover

theorem Leads.accounted (hs : s.Accounted origin [] 0)
    (h : s.Leads past n t) : t.Accounted origin past n := by
  induction h with
  | start => exact hs
  | next hpast hstep ih => exact ih.completes hstep
  | passed hpast hnow ih =>
      exact ⟨ih.fetcher.clocked (Or.inr hnow), ih.held⟩

/-! ## At rest -/

/-- A session is at rest after some steps with `n` fetches: as many workers are
in use as were taken from outside and not given back, nobody waits or is counted
as waiting, every permit of the breaker is settled, which has been asked once
for each fetch, and no trial is on. -/
structure AtRest (origin : Breaker.Situation) (s : Session)
    (past : List (Step × Reply)) (n : ℕ) : Prop where
  active : s.aggregator.fetcher.pool.active + givenBack past = taken past
  queue : s.aggregator.fetcher.pool.queue = []
  waiting : s.aggregator.fetcher.pool.waiting = 0
  permits : ∃ acts : List Breaker.Act, acts.count .ask = n ∧
    (⟨s.aggregator.fetcher.breaker, s.aggregator.fetcher.now, 0⟩ :
      Breaker.Situation) = origin.after acts
  circuit : s.aggregator.fetcher.breaker.circuit = .closed ∨
    s.aggregator.fetcher.breaker.circuit = .opened

theorem Accounted.atRest (h : s.Accounted origin past n)
    (hcoherent : origin.Coherent) : s.AtRest origin past n := by
  have hstaffed := h.fetcher.staffed
  have hqueue := hstaffed.queue_eq_nil
  obtain ⟨acts, hcount, hacts⟩ := h.fetcher.reached
  refine ⟨?_, hqueue, ?_, ⟨acts, hcount, hacts⟩, ?_⟩
  · rw [hstaffed.active, hqueue]
    exact h.held
  · rw [hstaffed.counted, hqueue]
    rfl
  · have hnow := hcoherent.after acts
    rw [← hacts] at hnow
    cases hcircuit : s.aggregator.fetcher.breaker.circuit with
    | closed => exact Or.inl rfl
    | opened => exact Or.inr rfl
    | halfOpen =>
        have htrial := hnow.halfOpen_iff.mp hcircuit
        simp [Fetcher.situation] at htrial

/-- Whatever steps of a session are completed, it is at rest after them. -/
theorem atRest_of_leads {storage : Storage} {network : Network}
    {config : Config} {byHand : Bool} {log : Log}
    (hstart : start storage network config byHand = (.ok s, log))
    (h : s.Leads past n t) :
    t.AtRest (.start config.fetch.group config.breaker 0) past n :=
  (h.accounted (accounted_of_start hstart)).atRest
    (Breaker.Situation.start_coherent _ _ _)

/-- A call is turned away by the pool, the circuit opens, and a trial is turned
away too while a worker is held.  Then time passes, and a list makes the next
trial, which takes a second and fails. -/
theorem atRest_after_turned_away :
    let config : Config :=
      { fetch := { workerPoolSize := 1, queueDepth := 0 }
        breaker := { requestVolumeThreshold := 1, sleepWindowMs := 1000 } }
    let fetcher := Fetcher.ofConfig config.fetch config.breaker .unreachable
    let s : Session := ⟨⟨⟨⟨[]⟩, [], [[]], []⟩, .volatile 0, fetcher⟩, true, 0⟩
    let url := "http://feeds.test/news"
    let steps : List Step :=
      [.hold, .tryFetch url, .release, .subscribe "ann" url, .list "ann",
        .fetch url, .advance 1000, .hold, .tryFetch url, .release]
    let past := (s.record steps).reverse
    let t := (s.steps steps).clocked 5000
    let moves : List (ℕ × Move) := [(5000, .start), (6000, .advance 0)]
    let answer := t.aggregator.listTimed "ann" moves
    let u : Session := { t with aggregator := answer.2.1 }
    let whole := (.list "ann", .feeds ⟨"ann", []⟩) :: past
    start (.start ⟨[]⟩) .unreachable config true = (.ok s, []) ∧
      (∃ n, s.Leads whole n u ∧
        u.AtRest (.start config.fetch.group config.breaker 0) whole n) ∧
      taken whole = 2 ∧ givenBack whole = 2 ∧
      u.aggregator.fetcher.breaker.circuit = .opened ∧
      u.aggregator.fetcher.breaker.openedAt = 6000 := by
  intro config fetcher s url steps past t moves answer u whole
  have hstart :
      start (.start ⟨[]⟩) .unreachable config true = (.ok s, []) := by
    have hcheck : Aggregator.checkFetching config = .ok () := by decide +kernel
    simp only [start, Aggregator.setUp, hcheck]
    rfl
  have hreplies : (s.record steps).all (·.2.comes) := by decide +kernel
  have hanswer : answer.1 = .ok (some ⟨"ann", []⟩) := by decide +kernel
  obtain ⟨n, hleads⟩ := Leads.start.steps hreplies
  rw [List.append_nil] at hleads
  have hwaited : s.Leads past n t := hleads.passed (by decide)
  have hreadings : ∀ m ∈ moves, m.1 < UInt64.size := by decide
  have hpair : answer = (.ok (some ⟨"ann", []⟩), answer.2.1, answer.2.2) := by
    rw [← hanswer]
  have hall := hwaited.next (.listed hreadings hpair)
  exact ⟨hstart, ⟨_, hall, atRest_of_leads hstart hall⟩, by decide +kernel,
    by decide +kernel, by decide +kernel, by decide +kernel⟩

end Session

end Newsstand
