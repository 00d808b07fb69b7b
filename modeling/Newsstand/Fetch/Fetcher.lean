import Newsstand.Breaker.Basic
import Newsstand.Fetch.Download
import Newsstand.WorkerPool.Basic

/-!
# Fetching

A fetcher downloads documents under the guard of one circuit breaker with the workers of one pool. A
fetch first asks the breaker, then for a worker, and downloads once it has both. While it waits for
a worker it holds on to its permit. What a download comes to is settled as its first request is
sent; it takes effect when the download ends: the permit is settled and the worker is given back.
-/

namespace Newsstand

/-- A fetcher: its configuration, breaker, pool and network, the time, and the requests that have
reached a server, the first one first. -/
structure Fetcher where
  config : FetchConfig
  breaker : Breaker
  pool : WorkerPool
  network : Network
  now : Nat
  requests : List Request

/-- How far a fetch has come that has been let in. -/
inductive Phase where
  /-- It waits for a worker at a place of the queue. -/
  | waiting (number : Nat)
  /-- It has a worker and downloads. -/
  | downloading (download : Download)

/-- A fetch that goes on: its URL, its permit and its phase. -/
structure Job where
  url : String
  permit : Permit
  phase : Phase

/-- A fetch of a URL while time passes, with the readings of the clock at which the breaker is asked
and at which it is told what came of the fetch. -/
structure Call where
  url : String
  asked : Nat
  told : Nat

/-- The readings of the clock in a call. A call that is refused reads the clock once, which counts
for both. -/
def Call.readings (call : Call) : List Nat :=
  [call.asked, call.told]

/-- What a fetch comes to when it is started. -/
inductive Beginning where
  /-- It is over before it has begun. -/
  | over (fault : FetchFault)
  | job (job : Job)

namespace Fetcher

/-- A fetcher before its first fetch. -/
def ofConfig (config : FetchConfig) (breaker : BreakerConfig) (network : Network) : Fetcher where
  config := config
  breaker := .ofConfig config.group breaker
  pool := .create config.group config.workerPoolSize config.queueDepth
  network := network
  now := 0
  requests := []

/-- A fetcher at another reading of the clock. -/
def clocked (f : Fetcher) (now : Nat) : Fetcher :=
  { f with now }

/-- Starts the download of a fetch that has a permit and a worker. -/
def send (f : Fetcher) (url : String) (permit : Permit) : Job × Fetcher :=
  let download := f.network.download f.config url
  (⟨url, permit, .downloading download⟩,
    { f with network := download.network, requests := f.requests ++ download.requests })

/-- Settles a permit. -/
def settle (f : Fetcher) (permit : Permit) (outcome : Outcome) : Fetcher × Log :=
  let (breaker, log) := f.breaker.settle f.now permit outcome
  ({ f with breaker }, log)

/-- Starts a fetch. -/
def start (f : Fetcher) (url : String) : Beginning × Fetcher × Log :=
  match f.breaker.ask f.now with
  | (none, breaker, log) => (.over (.refused f.config.group), { f with breaker }, log)
  | (some permit, breaker, log) =>
    let f := { f with breaker }
    match f.pool.acquire with
    | (.refused, pool, poolLog) =>
      let (f, dropLog) := { f with pool }.settle permit .abandoned
      (.over (.rejected f.config.group), f, log ++ poolLog ++ dropLog)
    | (.place number, pool, poolLog) =>
      (.job ⟨url, permit, .waiting number⟩, { f with pool }, log ++ poolLog)
    | (.worker, pool, poolLog) =>
      let (job, f) := { f with pool }.send url permit
      (.job job, f, log ++ poolLog)

/-- Looks whether the worker of a waiting fetch has come, and starts its download then. -/
def resume (f : Fetcher) (job : Job) (number : Nat) : Option (Job × Fetcher) :=
  match f.pool.poll number with
  | (false, _) => none
  | (true, pool) => some ({ f with pool }.send job.url job.permit)

/-- How the result of a download settles the permit of the call. -/
def outcomeOf : Except FetchFault String → Outcome
  | .ok _ => .success
  | .error _ => .failure

/-- Ends a fetch whose download is over. -/
def finish (f : Fetcher) (job : Job) (download : Download) : Fetcher × Log :=
  let (f, log) := f.settle job.permit (outcomeOf download.result)
  ({ f with pool := f.pool.release }, download.log ++ log)

/-- Fetches one document while nothing else goes on. There is no result if the fetch has to wait for
a worker, since nobody gives one back. -/
def tryFetch (f : Fetcher) (url : String) :
    Option (Except FetchFault String) × Fetcher × Log :=
  match f.start url with
  | (.over fault, f, log) => (some (.error fault), f, log)
  | (.job job, f, log) =>
    match job.phase with
    | .waiting _ => (none, f, log)
    | .downloading download =>
      let (f, finishLog) := f.finish job download
      (some download.result, f, log ++ finishLog)

/-- The report on a fetch that failed. -/
def reportFailed (f : Fetcher) (url : String) (fault : FetchFault) : LogEvent :=
  if fault.wasAttempted then
    ⟨.warn, "Feed fetch failed, using fallback",
      [("url", url), ("group", f.config.group), ("error", fault.message)]⟩
  else
    ⟨.debug, "Feed fetch not attempted, using fallback",
      [("url", url), ("error", fault.message)]⟩

/-- The document of a fetch, which is empty if the fetch failed, with the report on that. -/
def orEmpty (f : Fetcher) (url : String) : Except FetchFault String → String × Log
  | .ok body => (body, [])
  | .error fault => ("", [f.reportFailed url fault])

/-- Fetches one document, which is empty if that fails, while nothing else goes on. -/
def fetch (f : Fetcher) (url : String) : Option String × Fetcher × Log :=
  match f.tryFetch url with
  | (none, f, log) => (none, f, log)
  | (some result, f, log) =>
    let (body, failLog) := f.orEmpty url result
    (some body, f, log ++ failLog)

/-! ### Time -/

/-- `tryFetch` while time passes. -/
def tryFetchAt (f : Fetcher) (call : Call) :
    Option (Except FetchFault String) × Fetcher × Log :=
  match (f.clocked call.asked).start call.url with
  | (.over fault, f, log) => (some (.error fault), f, log)
  | (.job job, f, log) =>
    match job.phase with
    | .waiting _ => (none, f, log)
    | .downloading download =>
      let (f, finishLog) := (f.clocked call.told).finish job download
      (some download.result, f, log ++ finishLog)

/-- `fetch` while time passes. -/
def fetchAt (f : Fetcher) (call : Call) : Option String × Fetcher × Log :=
  match f.tryFetchAt call with
  | (none, f, log) => (none, f, log)
  | (some result, f, log) =>
    let (body, failLog) := f.orEmpty call.url result
    (some body, f, log ++ failLog)

end Fetcher

end Newsstand
