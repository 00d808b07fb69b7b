import Newsstand.Feed.Document
import Newsstand.Fetch.Fetcher

/-!
# Sweeps

A sweep fetches a list of URLs at the same time, though no more of them than there are workers. The
fetches are started in the order of the list, and their documents are handed out in that order too:
a document that is there before an earlier one waits for it, and keeps its room until then.

What happens first among several things that can happen is open, and so is how much time passes
meanwhile. A sweep is therefore moved from outside, one fetch at a time; `next?` is one way to choose,
in which whatever can go on without the network goes on first.
-/

namespace Newsstand

/-- The room of a fetch in a sweep: the fetch goes on, or its document waits to be handed out. -/
inductive Room where
  | going (job : Job)
  | done (url body : String)

/-- A sweep: the fetcher, the URLs whose fetch is not started, the rooms in the order of the list,
the documents that were handed out with their URLs, and the log. -/
structure Sweep where
  fetcher : Fetcher
  pending : List String
  rooms : List Room
  bodies : List (String × String)
  log : Log

/-- What moves in a sweep. -/
inductive Move where
  /-- The fetch of the next URL is started. -/
  | start
  /-- The fetch in a room goes on. -/
  | advance (room : Nat)
  deriving DecidableEq, Repr

namespace Sweep

/-- The sweep over a list of URLs before its first move. -/
def ofUrls (f : Fetcher) (urls : List String) : Sweep :=
  ⟨f, urls, [], [], []⟩

/-- Hands out the documents that wait for none before them. -/
def handOut (s : Sweep) : Sweep :=
  let isDone : Room → Bool
    | .done _ _ => true
    | .going _ => false
  let ready := (s.rooms.takeWhile isDone).filterMap fun
    | .done url body => some (url, body)
    | .going _ => none
  { s with rooms := s.rooms.dropWhile isDone, bodies := s.bodies ++ ready }

/-- The room of a fetch that ended, with the reports on it and on what its document holds. -/
def endOf (f : Fetcher) (url : String) (result : Except FetchFault String) : Room × Log :=
  let (body, log) := f.orEmpty url result
  (.done url body, log ++ (Feed.read url body).2)

/-- Whether there is room for another fetch. -/
def hasRoom (s : Sweep) : Bool :=
  s.rooms.length < s.fetcher.pool.size

/-- Starts the fetch of the next URL if there is one and room for it. -/
def startNext (s : Sweep) : Sweep :=
  match s.pending with
  | [] => s
  | url :: pending =>
    if !s.hasRoom then s
    else
      match s.fetcher.start url with
      | (.job job, fetcher, log) =>
        { s with fetcher, pending, rooms := s.rooms ++ [.going job], log := s.log ++ log }
      | (.over fault, fetcher, log) =>
        let (room, endLog) := endOf fetcher url (.error fault)
        { s with
          fetcher, pending
          rooms := s.rooms ++ [room]
          log := s.log ++ log ++ endLog }.handOut

/-- Lets the fetch in a room go on: one that waits for a worker starts its download if the worker
has come, and one that downloads ends. -/
def advance (s : Sweep) (i : Nat) : Sweep :=
  match s.rooms[i]? with
  | some (.going job) =>
    match job.phase with
    | .waiting number =>
      match s.fetcher.resume job number with
      | none => s
      | some (job, fetcher) => { s with fetcher, rooms := s.rooms.set i (.going job) }
    | .downloading download =>
      let (fetcher, log) := s.fetcher.finish job download
      let (room, endLog) := endOf fetcher job.url download.result
      { s with
        fetcher
        rooms := s.rooms.set i room
        log := s.log ++ log ++ endLog }.handOut
  | _ => s

/-- Makes a move; one that is not possible changes nothing. -/
def move (s : Sweep) : Move → Sweep
  | .start => s.startNext
  | .advance i => s.advance i

/-- Makes one move after another. -/
def moves (s : Sweep) : List Move → Sweep
  | [] => s
  | m :: ms => (s.move m).moves ms

/-- A sweep at another reading of the clock. -/
def clocked (s : Sweep) (now : Nat) : Sweep :=
  { s with fetcher := s.fetcher.clocked now }

/-- Makes one move after another, each at a reading of the clock. -/
def timed (s : Sweep) : List (Nat × Move) → Sweep
  | [] => s
  | (now, m) :: ms => ((s.clocked now).move m).timed ms

/-- Whether all documents have been handed out. -/
def isOver (s : Sweep) : Bool :=
  s.pending.isEmpty && s.rooms.isEmpty

/-- Whether the fetch in a room can go on without the network. -/
def goesOnAlone (f : Fetcher) : Room → Bool
  | .done _ _ => false
  | .going job =>
    match job.phase with
    | .waiting number => f.pool.isAssigned number
    | .downloading download => download.atOnce

/-- Whether the fetch in a room downloads. -/
def downloads : Room → Bool
  | .done _ _ => false
  | .going job =>
    match job.phase with
    | .waiting _ => false
    | .downloading _ => true

/-- The next move: of a fetch that needs nothing of the network, else the start of another fetch,
else the end of the first download. -/
def next? (s : Sweep) : Option Move :=
  match s.rooms.findIdx? (goesOnAlone s.fetcher) with
  | some i => some (.advance i)
  | none =>
    if !s.pending.isEmpty && s.hasRoom then some .start
    else (s.rooms.findIdx? downloads).map .advance

/-- Makes up to `fuel` moves as `next?` says. -/
def run (fuel : Nat) (s : Sweep) : Sweep :=
  match fuel, s.next? with
  | 0, _ => s
  | _, none => s
  | fuel + 1, some m => (s.move m).run fuel

/-- A sweep over a list of URLs up to its end. Each fetch takes at most three moves: it is started,
its worker comes, and its download ends. -/
def complete (f : Fetcher) (urls : List String) : Sweep :=
  (ofUrls f urls).run (3 * urls.length)

/-- The feeds with items among the documents that were handed out. -/
def feeds (s : Sweep) : List Feed :=
  (s.bodies.map fun (url, body) => (Feed.read url body).1).filter Feed.hasItems

end Sweep

end Newsstand
