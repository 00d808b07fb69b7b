import Newsstand.Duration

/-!
# Configuration

What can be set from outside: where subscriptions are kept, how documents are fetched, and when the
circuit breaker acts. Everything has a default, so that an empty configuration is complete.
-/

namespace Newsstand

/-- Where a store keeps subscriptions: in memory, or in a database file. -/
inductive Backend where
  | volatile
  | durable
  deriving DecidableEq, Repr

/-- The name of a backend. -/
def Backend.name : Backend → String
  | .volatile => "volatile"
  | .durable => "durable"

/-- The backend of a name. -/
def Backend.ofName? (name : String) : Option Backend :=
  [Backend.volatile, .durable].find? (·.name == name)

/-- The store: its backend, and for a durable one the database file, the table in it and the number
of connections. -/
structure StoreConfig where
  backend : Backend := .volatile
  database : String := "subscriptions.db"
  table : String := "subscriptions"
  maxConnections : Nat := 3
  deriving DecidableEq, Repr

/-- Fetching: the name of the group of workers, the time that one request may take, how many
requests run and wait at once, how many octets a document may have, and the name that the client
gives itself. -/
structure FetchConfig where
  group : String := "feed-get"
  timeoutMs : Nat := 3000
  workerPoolSize : Nat := 10
  queueDepth : Nat := 20
  maxBodyBytes : Nat := 10485760
  userAgent : String := "feedgather/0.1.0"
  deriving DecidableEq, Repr

/-- The time that one request may take. -/
def FetchConfig.timeout (config : FetchConfig) : Duration :=
  ⟨config.timeoutMs⟩

/-- The circuit breaker: the share of failures and the number of calls at which it opens, the window
in which calls count and its parts, and how long it stays open. -/
structure BreakerConfig where
  errorThresholdPercent : Nat := 50
  requestVolumeThreshold : Nat := 20
  rollingWindowMs : Nat := 10000
  windowBuckets : Nat := 10
  sleepWindowMs : Nat := 5000
  deriving DecidableEq, Repr

/-- The whole configuration. -/
structure Config where
  store : StoreConfig := {}
  fetch : FetchConfig := {}
  breaker : BreakerConfig := {}
  deriving DecidableEq, Repr

end Newsstand
