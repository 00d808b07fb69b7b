import Newsstand.Proofs.Breaker.Trip
import Newsstand.Proofs.Fetch.Start
import Newsstand.Proofs.WorkerPool.Conservation
import Newsstand.Proofs.WorkerPool.Waiting

/-!
# The course of one fetch

While one fetch goes on, time may pass, and others may give back workers that
they hold; nobody else asks for anything.  Then the fetch takes one of three
courses.  It is refused by the breaker, or turned away by the pool, and sends
nothing.  Or it gets a worker, at once or when one is given back for it; then it
sends its requests, gives the worker back in the end, and settles its permit
once, with what has come of the download.
-/

namespace Newsstand

/-! ## Permits -/

namespace Breaker

variable {b asked : Breaker} {permit : Permit} {now : ℕ} {log : Log}

theorem ask_eq_none (h : b.ask now = (none, asked, log)) :
    asked = b.refuse := by
  unfold ask at h
  split at h
  · cases h
  · split at h
    · cases h
    · exact (Prod.mk.inj (Prod.mk.inj h).2).1.symm
  · exact (Prod.mk.inj (Prod.mk.inj h).2).1.symm

/-- A permit is an ordinary one as long as the circuit is closed, and asking for
it changes nothing; or it is the trial of an open circuit. -/
theorem ask_eq_some (h : b.ask now = (some permit, asked, log)) :
    (permit = .ordinary ∧ b.circuit = .closed ∧ asked = b) ∨
      (permit = .trial ∧ asked = { b with circuit := .halfOpen }) := by
  unfold ask at h
  split at h
  next hclosed =>
      cases h
      exact Or.inl ⟨rfl, hclosed, rfl⟩
  next =>
      split at h
      · cases h
        exact Or.inr ⟨rfl, rfl⟩
      · cases h
  next => cases h

/-- What is left of a breaker when a permit is given up that it has just given.
-/
theorem settle_abandoned_of_ask (h : b.ask now = (some permit, asked, log))
    (later : ℕ) :
    (asked.settle later permit .abandoned).1 =
      if permit = .trial then b.openAt later else b := by
  rcases ask_eq_some h with ⟨rfl, -, rfl⟩ | ⟨rfl, rfl⟩
  · rfl
  · exact settle_trial_of_ne_success rfl Outcome.noConfusion later

/-- An ordinary permit adds one outcome to the window. -/
theorem settle_ordinary_of_ask
    (h : b.ask now = (some .ordinary, asked, log)) (later : ℕ)
    (result : Except FetchFault String) :
    let counted := b.count later result.isOk
    let settled :=
      (asked.settle later .ordinary (Fetcher.outcomeOf result)).1
    settled = counted ∨
      result.isOk = false ∧ settled = counted.openAt later := by
  rcases ask_eq_some h with ⟨-, hclosed, rfl⟩ | ⟨hpermit, -⟩
  · cases result with
    | ok body => exact Or.inl rfl
    | error fault =>
        by_cases hexceeds : (asked.count later false).exceeds later
        · exact Or.inr
            ⟨rfl, settle_ordinary_failure_of_exceeds hclosed hexceeds⟩
        · exact Or.inl (settle_ordinary_failure_of_not fun _ => hexceeds)
  · cases hpermit

/-- A trial closes the circuit with an empty window, or opens it again. -/
theorem settle_trial_of_ask (h : b.ask now = (some .trial, asked, log))
    (later : ℕ) (result : Except FetchFault String) :
    (asked.settle later .trial (Fetcher.outcomeOf result)).1 =
      if result.isOk then b.recover else b.openAt later := by
  rcases ask_eq_some h with ⟨hpermit, -⟩ | ⟨-, rfl⟩
  · cases hpermit
  · cases result with
    | ok body => rfl
    | error fault =>
        exact settle_trial_of_ne_success rfl Outcome.noConfusion later

end Breaker

namespace Fetcher

/-! ## What happens meanwhile -/

/-- Something that may happen while a fetch goes on. -/
inductive Incident where
  /-- Time passes. -/
  | wait (ms : ℕ)
  /-- Somebody else gives a worker back. -/
  | release
  deriving DecidableEq

/-- The fetcher after some incidents, from the first to the latest. -/
def amid (f : Fetcher) : List Incident → Fetcher
  | [] => f
  | .wait ms :: incidents =>
      { f with now := Breaker.later f.now ms }.amid incidents
  | .release :: incidents => { f with pool := f.pool.release }.amid incidents

/-- Ends a fetch that has a worker, after the incidents of its download. -/
def complete (f : Fetcher) (job : Job) (during : List Incident) :
    Option (Except FetchFault String × Fetcher) :=
  match job.phase with
  | .waiting _ => none
  | .downloading download =>
      some (download.result, ((f.amid during).finish job download).1)

/-- Fetches one document with incidents before it gets a worker, if it has to
wait for one, and during its download.  There is no result if no worker has come
for it. -/
def tryFetchAmid (f : Fetcher) (url : String) (before during : List Incident) :
    Option (Except FetchFault String × Fetcher) :=
  match f.start url with
  | (.over fault, f, _) => some (.error fault, f)
  | (.job job, f, _) =>
      match job.phase with
      | .downloading _ => f.complete job during
      | .waiting number =>
          match (f.amid before).resume job number with
          | none => none
          | some (job, f) => f.complete job during

/-- The time after some incidents. -/
def timeAmid (now : ℕ) : List Incident → ℕ
  | [] => now
  | .wait ms :: incidents => timeAmid (Breaker.later now ms) incidents
  | .release :: incidents => timeAmid now incidents

/-- Incidents are a matter of the pool and of the time only. -/
theorem amid_eq (f : Fetcher) (incidents : List Incident) :
    f.amid incidents =
      { f with
        pool := WorkerPool.release^[incidents.count .release] f.pool
        now := timeAmid f.now incidents } := by
  induction incidents generalizing f with
  | nil => rfl
  | cons incident incidents ih =>
      cases incident with
      | wait ms =>
          rw [amid, ih, List.count_cons_of_ne (by simp), timeAmid]
      | release =>
          rw [amid, ih, List.count_cons_self, Function.iterate_succ_apply,
            timeAmid]

theorem timeAmid_append (now : ℕ) (before during : List Incident) :
    timeAmid now (before ++ during) = timeAmid (timeAmid now before) during := by
  induction before generalizing now with
  | nil => rfl
  | cons incident before ih =>
      cases incident with
      | wait ms => exact ih _
      | release => exact ih now

variable {f : Fetcher} {url : String} {before during : List Incident}

/-! ## The three courses -/

theorem tryFetchAmid_of_refused (h : (f.breaker.ask f.now).1 = none) :
    f.tryFetchAmid url before during =
      some (.error (.refused f.config.group),
        { f with breaker := f.breaker.refuse }) := by
  rcases hask : f.breaker.ask f.now with ⟨permit, asked, log⟩
  rw [hask] at h
  obtain rfl : permit = none := h
  simp only [tryFetchAmid, start, hask, Breaker.ask_eq_none hask]

theorem tryFetchAmid_of_rejected {permit : Permit}
    (h : (f.breaker.ask f.now).1 = some permit) (hfree : f.pool.free = 0)
    (hfull : f.pool.queueDepth ≤ f.pool.waiting) :
    f.tryFetchAmid url before during =
      some (.error (.rejected f.config.group),
        { f with breaker :=
          if permit = .trial then f.breaker.openAt f.now else f.breaker }) := by
  rcases hask : f.breaker.ask f.now with ⟨asked?, asked, log⟩
  rw [hask] at h
  obtain rfl : asked? = some permit := h
  have hacquire := WorkerPool.acquire_of_full hfree hfull
  have hsettle := Breaker.settle_abandoned_of_ask hask f.now
  simp only [tryFetchAmid, start, hask, hacquire, settle, hsettle]

/-- A fetch that has found a free worker has it only for itself. -/
theorem tryFetchAmid_of_free {permit : Permit} {asked : Breaker} {log : Log}
    (hask : f.breaker.ask f.now = (some permit, asked, log))
    (hturn : f.pool.InTurn) (hfree : 0 < f.pool.free) :
    let download := f.network.download f.config url
    let g := f.amid during
    f.tryFetchAmid url before during =
      some (download.result,
        { g with
          breaker := (asked.settle g.now permit (outcomeOf download.result)).1
          network := download.network
          requests := f.requests ++ download.requests }) := by
  have hacquire := WorkerPool.acquire_of_free hfree
  have hpool := WorkerPool.release_iterate_takeFree
    (hturn.unserved_of_free hfree) hfree (during.count .release)
  simp only [tryFetchAmid, start, hask, hacquire, send, complete, amid_eq,
    finish, settle, hpool]

/-- A fetch that waits gets the worker that comes when all others in the queue
have theirs; and when it is over, the pool has given out one number more. -/
theorem tryFetchAmid_of_served {permit : Permit} {asked : Breaker} {log : Log}
    (hask : f.breaker.ask f.now = (some permit, asked, log))
    (hturn : f.pool.InTurn) (hfree : f.pool.free = 0)
    (hroom : f.pool.waiting < f.pool.queueDepth)
    (hserved : f.pool.unserved < before.count .release) :
    let download := f.network.download f.config url
    let g := f.amid (before ++ during)
    f.tryFetchAmid url before during =
      some (download.result,
        { g with
          breaker := (asked.settle g.now permit (outcomeOf download.result)).1
          pool := g.pool.issue
          network := download.network
          requests := f.requests ++ download.requests }) := by
  have hacquire := WorkerPool.acquire_of_room hfree hroom
  obtain ⟨hserve, hserved', hfree'⟩ :=
    WorkerPool.iterate_release_enqueue_of_lt hfree hserved
  -- The caller looks, and finds the worker.
  have hpoll : (WorkerPool.release^[before.count .release]
      f.pool.enqueue).poll f.pool.nextNumber =
        (true, (WorkerPool.release^[before.count .release]
          f.pool).issue.takeFree) := by
    have hnumber :=
      f.pool.iterate_release_nextNumber (before.count .release)
    rw [hserve, ← hnumber]
    exact (hturn.iterate_release _).poll_serve
  generalize hp : WorkerPool.release^[before.count .release] f.pool = p
    at hserve hserved' hfree' hpoll
  -- The worker that is given back is the one that the pool lacks.
  have hpool : (WorkerPool.release^[during.count .release]
      p.issue.takeFree).release =
        (WorkerPool.release^[during.count .release] p).issue := by
    rw [← WorkerPool.iterate_release_issue]
    exact WorkerPool.release_iterate_takeFree (p := p.issue) hserved' hfree'
      (during.count .release)
  have hall : WorkerPool.release^[(before ++ during).count .release] f.pool =
      WorkerPool.release^[during.count .release] p := by
    rw [List.count_append, Nat.add_comm, Function.iterate_add_apply, hp]
  simp only [tryFetchAmid, start, hask, hacquire, amid_eq, resume, hpoll, send,
    complete, finish, settle, hpool, hall, timeAmid_append]

/-- A fetch waits on as long as no more workers have come than others were
waiting for. -/
theorem tryFetchAmid_of_unserved {permit : Permit}
    (h : (f.breaker.ask f.now).1 = some permit) (hturn : f.pool.InTurn)
    (hfree : f.pool.free = 0) (hroom : f.pool.waiting < f.pool.queueDepth)
    (hunserved : before.count .release ≤ f.pool.unserved) :
    f.tryFetchAmid url before during = none := by
  rcases hask : f.breaker.ask f.now with ⟨asked?, asked, log⟩
  rw [hask] at h
  obtain rfl : asked? = some permit := h
  have hacquire := WorkerPool.acquire_of_room hfree hroom
  obtain ⟨hwaits, -⟩ := WorkerPool.iterate_release_enqueue hunserved
  have hpoll : (WorkerPool.release^[before.count .release]
      f.pool.enqueue).poll f.pool.nextNumber =
        (false, (WorkerPool.release^[before.count .release]
          f.pool).enqueue) := by
    have hnumber :=
      f.pool.iterate_release_nextNumber (before.count .release)
    rw [hwaits, ← hnumber]
    exact (hturn.iterate_release _).poll_enqueue
  simp only [tryFetchAmid, start, hask, hacquire, amid_eq, resume, hpoll]

/-- Without incidents the fetch is the one that goes on while nothing else does.
-/
theorem tryFetchAmid_nil (hturn : f.pool.InTurn) :
    f.tryFetchAmid url [] [] =
      (f.tryFetch url).1.map fun result => (result, (f.tryFetch url).2.1) := by
  unfold tryFetchAmid tryFetch
  rcases hstart : f.start url with ⟨fault | job, g, log⟩
  · rfl
  · cases hphase : job.phase with
    | downloading download => simp [complete, hphase, amid]
    | waiting number =>
        cases started_of_eq hstart with
        | sent hask hfree => cases hphase
        | waiting hask hfree hroom =>
            obtain rfl := Phase.waiting.inj hphase
            simp only [amid, resume, hturn.poll_enqueue]
            rfl

/-- What a fetch does to the breaker and the pool, whatever has happened to them
before.  Refused, it counts as that and does nothing else.  Turned away, it
leaves everything as it was, except that a trial ends with an open circuit.
With a worker, it leaves the pool as it would be without the fetch, but for a
number if it had to wait; an ordinary permit adds its one outcome to the window,
and a trial closes the circuit or opens it again. -/
theorem tryFetchAmid_accounts {name group : String} {config : BreakerConfig}
    {now size depth : ℕ} {past : List Breaker.Act}
    {steps : List WorkerPool.Step}
    (hbreaker : f.breaker =
      ((Breaker.Situation.start name config now).after past).breaker)
    (hnow : f.now = ((Breaker.Situation.start name config now).after past).now)
    (hpool : f.pool =
      ((WorkerPool.Run.start (.create group size depth)).steps steps).pool)
    (url : String) (before during : List Incident) :
    let asked := (f.breaker.ask f.now).1
    let fetched := f.tryFetchAmid url before during
    let download := f.network.download f.config url
    let ok := download.result.isOk
    let g := f.amid ((if 0 < f.pool.free then [] else before) ++ during)
    (asked = none →
      fetched = some (.error (.refused f.config.group),
        { f with breaker :=
          { f.breaker with refused := f.breaker.refused + 1 } })) ∧
    (∀ permit, asked = some permit →
      f.pool.free = 0 → f.pool.queueDepth ≤ f.pool.waiting →
      fetched = some (.error (.rejected f.config.group),
        { f with breaker := if permit = .trial then
          { f.breaker with circuit := .opened, openedAt := f.now }
          else f.breaker })) ∧
    (∀ permit, asked = some permit →
      f.pool.free = 0 → f.pool.waiting < f.pool.queueDepth →
      before.count .release ≤ f.pool.unserved → fetched = none) ∧
    (∀ permit, asked = some permit →
      0 < f.pool.free ∨ f.pool.waiting < f.pool.queueDepth ∧
        f.pool.unserved < before.count .release →
      (∀ fault, download.result = .error fault → fault.wasAttempted) ∧
      ∃ breaker,
        fetched = some (download.result,
          { g with
            breaker
            pool := if 0 < f.pool.free then g.pool
              else { g.pool with nextNumber := g.pool.nextNumber + 1 }
            network := download.network
            requests := f.requests ++ download.requests }) ∧
        (permit = .ordinary →
          let counted := { f.breaker with
            window := f.breaker.window.record g.now ok }
          (breaker = counted ∨ ok = false ∧
            breaker = { counted with circuit := .opened, openedAt := g.now }) ∧
          ((Breaker.Situation.start name config now).Steady past →
            f.now ≤ g.now →
            breaker.window.total g.now = f.breaker.window.total g.now + 1 ∧
            breaker.window.failures g.now =
              f.breaker.window.failures g.now + if ok then 0 else 1)) ∧
        (permit = .trial →
          breaker = if ok then
            { f.breaker with
              circuit := .closed, window := f.breaker.window.reset }
            else { f.breaker with circuit := .opened, openedAt := g.now })) := by
  intro asked fetched download ok g
  have hturn : f.pool.InTurn := by
    rw [hpool]
    exact ((WorkerPool.Run.inOrder_start group size depth).steps steps).inTurn
  refine ⟨tryFetchAmid_of_refused, fun permit => tryFetchAmid_of_rejected,
    fun permit hasked hfree => tryFetchAmid_of_unserved hasked hturn hfree, ?_⟩
  intro permit hasked hserved
  refine ⟨fun fault => Network.wasAttempted_of_download, ?_⟩
  rcases hask : f.breaker.ask f.now with ⟨permit?, breaker, log⟩
  obtain rfl : permit? = some permit := by
    rw [← hasked]
    exact (congrArg Prod.fst hask).symm
  refine ⟨(breaker.settle g.now permit (outcomeOf download.result)).1,
    ?_, ?_, ?_⟩
  · by_cases hfree : 0 < f.pool.free
    · have hg : g = f.amid during := by
        simp only [g, if_pos hfree, List.nil_append]
      rw [if_pos hfree, hg]
      exact tryFetchAmid_of_free hask hturn hfree
    · have hg : g = f.amid (before ++ during) := by
        simp only [g, if_neg hfree]
      obtain ⟨hroom, hcome⟩ := hserved.resolve_left hfree
      rw [if_neg hfree, hg]
      exact tryFetchAmid_of_served hask hturn (by omega) hroom hcome
  · rintro rfl counted
    have hsettled :=
      Breaker.settle_ordinary_of_ask hask g.now download.result
    refine ⟨hsettled, fun hsteady hle => ?_⟩
    have hkeeps : f.breaker.window.Keeps f.now
        ((Breaker.Situation.start name config now).ledger past) := by
      rw [hbreaker, hnow]
      exact Breaker.Situation.start_keeps name config now hsteady
    have hlater := hkeeps.mono hle
    have hwindow : (breaker.settle g.now .ordinary
        (outcomeOf download.result)).1.window =
          f.breaker.window.record g.now ok := by
      rcases hsettled with hcounted | ⟨-, hopened⟩
      · rw [hcounted]
        rfl
      · rw [hopened]
        rfl
    rw [hwindow]
    exact ⟨hlater.total_record ok, hlater.failures_record ok⟩
  · rintro rfl
    exact Breaker.settle_trial_of_ask hask g.now download.result

/-- A trial waits for the one worker of a pool, which comes after 5
milliseconds, and fails after 7 more. -/
theorem tryFetchAmid_trial_reopens :
    let config : BreakerConfig :=
      { requestVolumeThreshold := 1, sleepWindowMs := 1000 }
    let past : List Breaker.Act :=
      [.wait 1000, .settle .ordinary .failure, .ask]
    let s := (Breaker.Situation.start "feeds" config 0).after past
    let r := (WorkerPool.Run.start (.create "feeds" 1 1)).steps
      [.acquire "other"]
    let f : Fetcher :=
      ⟨{}, s.breaker, r.pool, .unreachable, s.now, []⟩
    (f.breaker.ask f.now).1 = some .trial ∧
      (f.pool.waiting < f.pool.queueDepth ∧
        f.pool.unserved < [Incident.wait 5, .release].count .release) ∧
      f.tryFetchAmid "" [.wait 5, .release] [.wait 7] =
        some (.error (.request .notUrl),
          { f with
            breaker := { s.breaker with circuit := .opened, openedAt := 1012 }
            pool := { r.pool with free := 1, nextNumber := 1 }
            now := 1012 }) := by
  intro config past s r f
  have hpool : f.pool = ((WorkerPool.Run.start (.create "feeds" 1 1)).steps
      [.acquire "other"]).pool := rfl
  have hbreaker : f.breaker =
      ((Breaker.Situation.start "feeds" config 0).after past).breaker := rfl
  obtain ⟨-, -, -, hserved⟩ := tryFetchAmid_accounts hbreaker rfl hpool ""
    [.wait 5, .release] [.wait 7]
  have hasked : (f.breaker.ask f.now).1 = some .trial := by decide
  have hcome : f.pool.waiting < f.pool.queueDepth ∧
      f.pool.unserved < [Incident.wait 5, .release].count .release := by decide
  obtain ⟨-, breaker, hfetched, -, htrial⟩ :=
    hserved .trial hasked (Or.inr hcome)
  have hread : Url.readRequest "" = .error .notUrl := by rfl
  have hdownload : f.network.download f.config "" =
      ⟨.error (.request .notUrl), [], .unreachable, [], true⟩ := by
    simp only [Network.download, hread, f]
  have hfree : ¬0 < f.pool.free := by decide
  rw [hdownload, if_neg hfree, if_neg hfree] at hfetched
  rw [hdownload, if_neg hfree] at htrial
  have htime : (f.amid ([.wait 5, .release] ++ [.wait 7])).now = 1012 := by
    decide
  have hleft : (f.amid ([.wait 5, .release] ++ [.wait 7])).pool =
      { r.pool with free := 1 } := by
    decide
  refine ⟨hasked, hcome, ?_⟩
  rw [htime] at htrial
  rw [hfetched, htrial rfl, hleft, htime, amid_eq]
  rfl

end Fetcher

end Newsstand
