import Newsstand.Aggregator.Basic
import Newsstand.CommandLine.Arguments
import Newsstand.Config.Reading
import Newsstand.JsonValue

/-!
# Runs of the command line

Every run reads the configuration, sets an aggregator up, carries one command out and closes the
store. What it leaves behind for the next run is what stands in database files.
-/

namespace Newsstand

/-- The surroundings of a run: the storage, the network, and the home directory if there is one. -/
structure Machine where
  storage : Storage
  network : Network
  home? : Option String

/-- What a run comes to: its exit code, what it prints, and its complaint if it has one. -/
structure RunResult where
  exit : Nat
  output : String
  complaint? : Option String
  deriving DecidableEq, Repr

/-- The name of the program and its version. -/
def versionText : String := "feedgather 0.1.0"

/-- The path of the configuration in a home directory. -/
def defaultConfigPath (home : String) : String :=
  (if home.isEmpty || home.endsWith "/" then home else home ++ "/")
    ++ ".config/feedgather/config.toml"

/-- The written form of a status. -/
def statusJson (code : Nat) : JsonValue :=
  .object [("status", .number code)]

/-- The written form of an item. -/
def Item.json (item : Item) : JsonValue :=
  .object [("title", .text item.title), ("link", .text item.link),
    ("description", .text item.description)]

/-- The written form of a feed. -/
def Feed.json (feed : Feed) : JsonValue :=
  .object [("url", .text feed.url), ("title", .text feed.title),
    ("items", .list (feed.items.map Item.json))]

/-- The written form of the feeds of a user. -/
def Subscriptions.json (s : Subscriptions) : JsonValue :=
  .object [("user", .text s.user), ("feeds", .list (s.feeds.map Feed.json))]

/-- The written form of what an import comes to. -/
def ImportSummary.json (s : ImportSummary) : JsonValue :=
  .object [("found", .number s.found), ("subscribed", .number s.subscribed)]

namespace RunResult

/-- A run that could not carry its command out. -/
def stopped (complaint : String) : RunResult :=
  ⟨1, "", some ("Error: " ++ complaint)⟩

/-- A run that breaks off while it is set up. Its complaint tells a place in the code, and is left
out. -/
def brokenOff : RunResult :=
  ⟨101, "", none⟩

/-- What a run comes to if no aggregator can be set up. What cannot be counted or kept breaks it
off. -/
def ofSetupFault : SetupFault → RunResult
  | .store _ => stopped "Failed to initialize aggregator"
  | .client => stopped "Failed to initialize aggregator"
  | .tooManyWorkers => brokenOff
  | .tooManySlices => brokenOff

/-- A command that printed something. -/
def printed (good : Bool) (json : JsonValue) : RunResult :=
  ⟨if good then 0 else 1, json.pretty ++ "\n", none⟩

/-- A command that failed. -/
def failed (complaint : String) : RunResult :=
  ⟨1, (statusJson statusFailed).pretty ++ "\n", some ("Error: " ++ complaint)⟩

/-- A command that changed something. -/
def ofChange : Except StoreFault Unit → RunResult
  | .ok () => printed true (statusJson statusOk)
  | .error fault => failed fault.message

/-- The wrong use of the program. -/
def wrongUse : RunResult :=
  ⟨2, "", none⟩

end RunResult

namespace Aggregator

/-- Carries a command out. -/
def carryOut (a : Aggregator) : Command → RunResult × Aggregator
  | .list user =>
    match a.list user with
    | (.ok (some subscriptions), a, _) => (.printed true subscriptions.json, a)
    | (.ok none, a, _) => (.stopped "", a)
    | (.error fault, a, _) => (.failed fault.message, a)
  | .subscribe user url =>
    let (change, a, _) := a.subscribe user url
    (.ofChange change, a)
  | .unsubscribe user url =>
    let (change, a, _) := a.unsubscribe user url
    (.ofChange change, a)
  | .importFile user file =>
    match a.importOutline user (a.storage.readFile file) with
    | (.ok summary, a, _) =>
      (.printed (summary.subscribed = summary.found) summary.json, a)
    | (.error fault, a, _) => (.failed s!"failed to import {file}: {fault.message}", a)
  | .health => (.printed (a.health = statusOk) (statusJson a.health), a)

end Aggregator

namespace Machine

/-- The path of the configuration of a run. -/
def configPath? (m : Machine) (given? : Option String) : Option String :=
  given?.or (m.home?.map defaultConfigPath)

/-- Carries a command out under a configuration. -/
def perform (m : Machine) (config : Config) (command : Command) : RunResult × Machine :=
  match Aggregator.setUp m.storage m.network config with
  | (.error fault, storage, _) => (.ofSetupFault fault, { m with storage })
  | (.ok a, _, _) =>
    let (result, a) := a.carryOut command
    let a := a.close
    (result, { m with storage := a.storage, network := a.fetcher.network })

/-- Makes a run. -/
def run (m : Machine) (arguments : List String) : RunResult × Machine :=
  match Invocation.ofArguments arguments with
  | .wrong => (.wrongUse, m)
  | .help => (⟨0, "", none⟩, m)
  | .version => (⟨0, versionText ++ "\n", none⟩, m)
  | .command given? command =>
    match m.configPath? given? with
    | none => (.stopped "HOME environment variable not set", m)
    | some path =>
      match (Config.load path (m.storage.readFile path)).1 with
      | .error _ => (.stopped s!"Failed to load config from {path}", m)
      | .ok config => m.perform config command

/-- Makes one run after another. -/
def runs (m : Machine) : List (List String) → List RunResult × Machine
  | [] => ([], m)
  | arguments :: rest =>
    let (result, m) := m.run arguments
    let (results, m) := m.runs rest
    (result :: results, m)

/-- The paths of the files that a run reads. -/
def filesRead (home? : Option String) (arguments : List String) : List String :=
  match Invocation.ofArguments arguments with
  | .command given? command =>
    (given?.or (home?.map defaultConfigPath)).toList
      ++ match command with
        | .importFile _ file => [file]
        | _ => []
  | _ => []

end Machine

end Newsstand
