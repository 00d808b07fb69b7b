import Newsstand.Fetch.Sweep
import Newsstand.Files
import Newsstand.Outline
import Newsstand.Store.Basic

/-!
# Aggregators

An aggregator joins a store of subscriptions with a fetcher of documents. For a user it gives the
feeds of all subscriptions that have something to show; it changes subscriptions after it has
checked them, one by one or from an outline file.
-/

namespace Newsstand

open Text

/-- An aggregator: the storage, its store in it, and the fetcher. -/
structure Aggregator where
  storage : Storage
  store : Store
  fetcher : Fetcher

/-- Why an aggregator cannot be set up. -/
inductive SetupFault where
  | store (fault : StoreFault)
  /-- The pool has more workers than can be counted. -/
  | tooManyWorkers
  /-- The window has more slices than can be kept. -/
  | tooManySlices
  /-- The name of the client cannot be sent. -/
  | client
  deriving DecidableEq, Repr

/-- The wording of a fault. -/
def SetupFault.message : SetupFault → String
  | .store fault => fault.message
  | .tooManyWorkers => ""
  | .tooManySlices => ""
  | .client => "Failed to build HTTP client: builder error"

/-- Why an outline file is not imported. -/
inductive ImportFault where
  | file (fault : FileFault)
  | outline (fault : Outline.Fault)
  deriving DecidableEq, Repr

/-- The wording of a fault. -/
def ImportFault.message : ImportFault → String
  | .file fault => s!"Failed to read OPML file: {fault.message}"
  | .outline fault => fault.message

/-- What an import comes to: the number of feeds in the file, and of those subscribed to. -/
structure ImportSummary where
  found : Nat
  subscribed : Nat
  deriving DecidableEq, Repr

/-- The feeds of a user. -/
structure Subscriptions where
  user : String
  feeds : List Feed
  deriving DecidableEq, Repr

/-- The largest number of workers of a pool. -/
def WorkerPool.maxSize : Nat := UInt64.size / 8 - 1

/-- The largest number of slices of a window; each takes three words, and all together may take half
of what can be addressed. -/
def Window.maxCount : Nat := (UInt64.size / 2 - 1) / 24

/-- Whether a client may give itself a name: among its characters is no control but the tab. -/
def isAgentName (name : String) : Bool :=
  name.toList.all fun c => c == '\t' || (0x20 ≤ c.toNat && c.toNat != 0x7F)

/-- The status that stands for success. -/
def statusOk : Nat := 200

/-- The status that stands for failure. -/
def statusFailed : Nat := 500

namespace Aggregator

/-- Checks what a configuration says about fetching. -/
def checkFetching (config : Config) : Except SetupFault Unit :=
  if WorkerPool.maxSize < config.fetch.workerPoolSize then .error .tooManyWorkers
  else if Window.maxCount < config.breaker.windowBuckets then .error .tooManySlices
  else if !isAgentName config.fetch.userAgent then .error .client
  else .ok ()

/-- Sets an aggregator up as a configuration says. The store is opened first, and stays so also if
something else is at fault. -/
def setUp (storage : Storage) (network : Network) (config : Config) :
    Except SetupFault Aggregator × Storage × Log :=
  match storage.openStore config.store with
  | (.error fault, storage, log) => (.error (.store fault), storage, log)
  | (.ok store, storage, log) =>
    match checkFetching config with
    | .error fault => (.error fault, storage, log)
    | .ok () => (.ok ⟨storage, store, .ofConfig config.fetch config.breaker network⟩, storage, log)

/-- The report that an aggregator is set up. -/
def reportReady (config : Config) : LogEvent :=
  ⟨.info, "Aggregator ready",
    [("backend", config.store.backend.name), ("group", config.fetch.group),
      ("workers", toString config.fetch.workerPoolSize)]⟩

/-! ### Subscriptions -/

/-- The URL of a subscription that a user asks for, without the blanks around it. -/
def checkSubscription (user url : String) : Except StoreFault String := do
  let url := trim url
  requireUserAndUrl user url
  let _ ← (Url.readFeedUrl url).mapError .feedUrl
  return url

/-- The report that a user subscribes. -/
def reportSubscribed (user url : String) : LogEvent :=
  ⟨.info, "Subscribed", [("user", user), ("url", url)]⟩

/-- The report that a user does not subscribe any more. -/
def reportUnsubscribed (user url : String) : LogEvent :=
  ⟨.info, "Unsubscribed", [("user", user), ("url", url)]⟩

/-- Subscribes a user to a URL. -/
def subscribe (a : Aggregator) (user url : String) : Except StoreFault Unit × Aggregator × Log :=
  match checkSubscription user url with
  | .error fault => (.error fault, a, [])
  | .ok url =>
    match a.storage.add a.store user url with
    | (.error fault, storage, log) => (.error fault, { a with storage }, log)
    | (.ok (), storage, log) =>
      (.ok (), { a with storage }, log ++ [reportSubscribed user url])

/-- Ends the subscription of a user to a URL. -/
def unsubscribe (a : Aggregator) (user url : String) :
    Except StoreFault Unit × Aggregator × Log :=
  match checkSubscription user url with
  | .error fault => (.error fault, a, [])
  | .ok url =>
    match a.storage.remove a.store user url with
    | (.error fault, storage, log) => (.error fault, { a with storage }, log)
    | (.ok (), storage, log) =>
      (.ok (), { a with storage }, log ++ [reportUnsubscribed user url])

/-! ### Feeds -/

/-- The URLs to which a user subscribes. -/
def urls (a : Aggregator) (user : String) : Except StoreFault (List String) :=
  a.storage.list a.store user

/-- The report on the feeds of a user. -/
def reportAggregated (user : String) (subscribed withItems : Nat) : LogEvent :=
  ⟨.debug, "Aggregated subscriptions",
    [("user", user), ("subscribed", toString subscribed), ("with_items", toString withItems)]⟩

/-- The feeds that a sweep over the URLs of a user gives, with the state and the log after it. There
are none if the sweep did not come to its end. -/
def ofSweep (a : Aggregator) (user : String) (urls : List String) (s : Sweep) :
    Option Subscriptions × Aggregator × Log :=
  let a := { a with fetcher := s.fetcher }
  if s.isOver then
    let report := reportAggregated user urls.length s.feeds.length
    (some ⟨user, s.feeds⟩, a, s.log ++ [report])
  else (none, a, s.log)

/-- The feeds of a user that have items, in the order of the subscriptions. Nothing comes of it if a
fetch waits for a worker that nobody gives back. -/
def list (a : Aggregator) (user : String) :
    Except StoreFault (Option Subscriptions) × Aggregator × Log :=
  match a.urls user with
  | .error fault => (.error fault, a, [])
  | .ok urls =>
    let (subscriptions?, a, log) := a.ofSweep user urls (Sweep.complete a.fetcher urls)
    (.ok subscriptions?, a, log)

/-- The same with the moves of the sweep given, each with the reading of the clock at which it is
made. -/
def listTimed (a : Aggregator) (user : String) (moves : List (Nat × Move)) :
    Except StoreFault (Option Subscriptions) × Aggregator × Log :=
  match a.urls user with
  | .error fault => (.error fault, a, [])
  | .ok urls =>
    let sweep := (Sweep.ofUrls a.fetcher urls).timed moves
    let (subscriptions?, a, log) := a.ofSweep user urls sweep
    (.ok subscriptions?, a, log)

/-- The same while no time passes. -/
def listBy (a : Aggregator) (user : String) (moves : List Move) :
    Except StoreFault (Option Subscriptions) × Aggregator × Log :=
  a.listTimed user (moves.map fun m => (a.fetcher.now, m))

/-! ### Import -/

/-- The warning about a feed of an outline file that is not subscribed to. -/
def reportSkipped (user url : String) (fault : StoreFault) : LogEvent :=
  ⟨.warn, "Skipping feed from OPML",
    [("user", user), ("url", url), ("error", fault.message)]⟩

/-- Subscribes a user to one URL after another; gives the number of those that it worked for. -/
def subscribeAll (a : Aggregator) (user : String) : List String → Nat × Aggregator × Log
  | [] => (0, a, [])
  | url :: urls =>
    match a.subscribe user url with
    | (.ok (), a, log) =>
      let (n, a, restLog) := a.subscribeAll user urls
      (n + 1, a, log ++ restLog)
    | (.error fault, a, log) =>
      let (n, a, restLog) := a.subscribeAll user urls
      (n, a, log ++ reportSkipped user url fault :: restLog)

/-- Reads the feeds that an outline file lists. -/
def readOutline (file : FileRead) : Except ImportFault (List String) × Log :=
  match FileRead.text file with
  | .error fault => (.error (.file fault), [])
  | .ok text =>
    let (urls, log) := Outline.read text
    (urls.mapError .outline, log)

/-- Subscribes a user to every feed that an outline file lists. -/
def importOutline (a : Aggregator) (user : String) (file : FileRead) :
    Except ImportFault ImportSummary × Aggregator × Log :=
  match readOutline file with
  | (.error fault, log) => (.error fault, a, log)
  | (.ok urls, log) =>
    let (n, a, subscribeLog) := a.subscribeAll user urls
    (.ok ⟨urls.length, n⟩, a, log ++ subscribeLog)

/-! ### Health -/

/-- The status of the store. -/
def health (a : Aggregator) : Nat :=
  if a.storage.isOpen a.store then statusOk else statusFailed

/-- Closes the store. -/
def close (a : Aggregator) : Aggregator :=
  { a with storage := a.storage.close a.store }

end Aggregator

end Newsstand
