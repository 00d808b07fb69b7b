import Newsstand.Aggregator.Basic
import Newsstand.Breaker.Run

/-!
# Sessions

An aggregator in use: the steps that are taken on it one after another, and what else can happen to
its parts between them. Workers of its pool may be taken and given back from outside, its clock goes
on, and its store may be closed.
-/

namespace Newsstand

/-- An aggregator, whether its clock is moved by hand, and the number of workers that are held from
outside. -/
structure Session where
  aggregator : Aggregator
  byHand : Bool
  held : Nat

namespace Session

/-- A step of a session. -/
inductive Step where
  | subscribe (user url : String)
  | unsubscribe (user url : String)
  | urls (user : String)
  | list (user : String)
  | fetch (url : String)
  | tryFetch (url : String)
  | importOutline (user : String) (file : FileRead)
  | health
  /-- Moves the clock if it is moved by hand. -/
  | advance (ms : Nat)
  | close
  /-- Takes a worker if there is one without waiting. -/
  | hold
  /-- Gives a worker back. -/
  | release

/-- What a step comes to. -/
inductive Reply where
  | done
  | urls (urls : List String)
  | feeds (subscriptions : Subscriptions)
  | body (body : String)
  | imported (summary : ImportSummary)
  | status (code : Nat)
  | flag (answer : Bool)
  | storeFault (fault : StoreFault)
  | fetchFault (fault : FetchFault)
  | importFault (fault : ImportFault)
  /-- The step waits for what never comes. -/
  | never

/-- Starts a session with an aggregator. -/
def start (storage : Storage) (network : Network) (config : Config) (byHand : Bool) :
    Except SetupFault Session × Log :=
  match Aggregator.setUp storage network config with
  | (.error fault, _, log) => (.error fault, log)
  | (.ok aggregator, _, log) =>
    let ready := if byHand then [] else [Aggregator.reportReady config]
    (.ok ⟨aggregator, byHand, 0⟩, log ++ ready)

/-- The session with another fetcher. -/
def withFetcher (s : Session) (fetcher : Fetcher) : Session :=
  { s with aggregator := { s.aggregator with fetcher } }

/-- The session with another pool. -/
def withPool (s : Session) (pool : WorkerPool) : Session :=
  s.withFetcher { s.aggregator.fetcher with pool }

/-- The reply on a change. -/
def Reply.ofChange : Except StoreFault Unit → Reply
  | .ok () => .done
  | .error fault => .storeFault fault

/-- Takes a worker from outside without waiting for one. -/
def hold (s : Session) : Reply × Session × Log :=
  match s.aggregator.fetcher.pool.acquire with
  | (.worker, pool, log) => (.flag true, { s.withPool pool with held := s.held + 1 }, log)
  | (.place number, pool, log) => (.flag false, s.withPool (pool.cancel number), log)
  | (.refused, pool, log) => (.flag false, s.withPool pool, log)

/-- Takes a step. -/
def step (s : Session) : Step → Reply × Session × Log
  | .subscribe user url =>
    let (change, aggregator, log) := s.aggregator.subscribe user url
    (.ofChange change, { s with aggregator }, log)
  | .unsubscribe user url =>
    let (change, aggregator, log) := s.aggregator.unsubscribe user url
    (.ofChange change, { s with aggregator }, log)
  | .urls user =>
    match s.aggregator.urls user with
    | .ok urls => (.urls urls, s, [])
    | .error fault => (.storeFault fault, s, [])
  | .list user =>
    match s.aggregator.list user with
    | (.ok (some subscriptions), aggregator, log) =>
      (.feeds subscriptions, { s with aggregator }, log)
    | (.ok none, aggregator, log) => (.never, { s with aggregator }, log)
    | (.error fault, aggregator, log) => (.storeFault fault, { s with aggregator }, log)
  | .fetch url =>
    match s.aggregator.fetcher.fetch url with
    | (some body, fetcher, log) => (.body body, s.withFetcher fetcher, log)
    | (none, fetcher, log) => (.never, s.withFetcher fetcher, log)
  | .tryFetch url =>
    match s.aggregator.fetcher.tryFetch url with
    | (some (.ok body), fetcher, log) => (.body body, s.withFetcher fetcher, log)
    | (some (.error fault), fetcher, log) => (.fetchFault fault, s.withFetcher fetcher, log)
    | (none, fetcher, log) => (.never, s.withFetcher fetcher, log)
  | .importOutline user file =>
    match s.aggregator.importOutline user file with
    | (.ok summary, aggregator, log) => (.imported summary, { s with aggregator }, log)
    | (.error fault, aggregator, log) => (.importFault fault, { s with aggregator }, log)
  | .health => (.status s.aggregator.health, s, [])
  | .advance ms =>
    let fetcher := s.aggregator.fetcher
    let moved := s.withFetcher { fetcher with now := Breaker.later fetcher.now ms }
    (.done, if s.byHand then moved else s, [])
  | .close => (.done, { s with aggregator := s.aggregator.close }, [])
  | .hold => s.hold
  | .release =>
    if s.held = 0 then (.flag false, s, [])
    else
      (.flag true, { s.withPool s.aggregator.fetcher.pool.release with held := s.held - 1 }, [])

/-- Takes one step after another. -/
def steps (s : Session) : List Step → Session
  | [] => s
  | step :: rest => (s.step step).2.1.steps rest

end Session

end Newsstand
