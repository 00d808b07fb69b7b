import Newsstand.Config.Basic
import Newsstand.Directory
import Newsstand.Log
import Newsstand.Store.Database
import Newsstand.Store.Listing
import Newsstand.Store.Location

/-!
# Stores

A store keeps who subscribes to what, in memory or in a table of a database. It is a reference: what
one holder of it changes, every other one sees, and so do all durable stores on the same table of
the same file. All that stores refer to is kept in one place, the storage.
-/

namespace Newsstand

/-- A store, by its number among those of its kind. -/
inductive Store where
  | volatile (number : Nat)
  | durable (number : Nat)
  deriving DecidableEq, Repr

/-- The backend of a store. -/
def Store.backend : Store → Backend
  | .volatile _ => .volatile
  | .durable _ => .durable

/-- What a durable store is connected to. -/
inductive Seat where
  /-- A database that only this store has, by its number. -/
  | memory (number : Nat)
  /-- A database file. -/
  | file (parts : List String)
  deriving DecidableEq, Repr

/-- The connection of a durable store: its database, the table in it, and whether it is closed. -/
structure Connection where
  seat : Seat
  table : String
  closed : Bool
  deriving DecidableEq, Repr

/-- The directory in which database files lie, the databases, and the contents and connections of
the stores of each kind. -/
structure Storage where
  directory : Directory
  databases : List (Seat × Database)
  volatiles : List Listings
  connections : List Connection
  deriving DecidableEq, Repr

namespace Storage

/-- The storage before the first store is opened. -/
def start (directory : Directory) : Storage :=
  ⟨directory, [], [], []⟩

/-! ### Databases -/

/-- The content of a database; one that was never used is empty. -/
def database (s : Storage) (seat : Seat) : Database :=
  (s.databases.lookup seat).getD []

/-- The storage with other content in a database. -/
def putDatabase (s : Storage) (seat : Seat) (d : Database) : Storage :=
  { s with databases := (seat, d) :: s.databases.filter (·.1 != seat) }

/-- The storage with a table of a database changed. -/
def modifyTable (s : Storage) (c : Connection) (f : Table → Table) : Storage :=
  s.putDatabase c.seat ((s.database c.seat).modify c.table f)

/-- The table to which a connection leads. -/
def tableOf (s : Storage) (c : Connection) : Table :=
  ((s.database c.seat).find? c.table).getD ⟨c.table, []⟩

/-- The largest number of octets of the name of a database file; the journal beside it has a longer
name. -/
def databaseNameLimit : Nat := nameLimit - "-journal".utf8ByteSize

/-- Whether a directory stands at a path. All that the path goes up to is one. -/
def isDirectory (s : Storage) (parts : List String) : Bool :=
  parts.all (· == "..") || s.directory.isDirectory parts

/-- Checks that a file can hold a database: its directory is there, it is no directory itself, and
it is new, empty or a database already. The length of the whole path is not looked at, since what
stands before the working directory is not known; of some five hundred octets that it may have. -/
def checkFile (s : Storage) (parts : List String) : Except ConnectionFault Unit :=
  let tooLong := databaseNameLimit < (parts.getLastD "").utf8ByteSize
  if s.isDirectory parts || !s.isDirectory parts.dropLast || tooLong then .error .cannotOpen
  else
    match s.directory.files.lookup parts with
    | some (_ :: _) => .error .notDatabase
    | _ => .ok ()

/-- The seat for a location. -/
def seatFor (s : Storage) : Location → Except ConnectionFault Seat
  | .memory => .ok (.memory s.connections.length)
  | .file parts => do
    s.checkFile parts
    return .file parts

/-- Whether a database file stands at a path. -/
def isDatabaseFile (s : Storage) (path : String) : Bool :=
  (s.databases.lookup (.file (Location.resolve path))).isSome

/-- Reads the file at a path; a database is no text. -/
def readFile (s : Storage) (path : String) : FileRead :=
  if s.isDatabaseFile path then .error .notText else s.directory.read path

/-! ### Opening and closing -/

/-- Opens an empty store in memory. -/
def openVolatile (s : Storage) : Store × Storage :=
  (.volatile s.volatiles.length, { s with volatiles := s.volatiles ++ [[]] })

/-- Opens a store on a table of a database, which are made if they are not there. -/
def openDurable (s : Storage) (path table : String) : Except StoreFault (Store × Storage) := do
  if !isTableName table then throw (.tableName table)
  let location ← (Location.ofPath path).mapError .connection
  let seat ← (s.seatFor location).mapError .connection
  let d ← ((s.database seat).require table).mapError .table
  let s := s.putDatabase seat d
  return (.durable s.connections.length,
    { s with connections := s.connections ++ [⟨seat, table, false⟩] })

/-- The report on a durable store that was opened. -/
def reportOpened (path table : String) : LogEvent :=
  ⟨.info, "Opened durable subscription store", [("path", path), ("table", table)]⟩

/-- Opens the store that a configuration asks for. -/
def openStore (s : Storage) (config : StoreConfig) : Except StoreFault Store × Storage × Log :=
  match config.backend with
  | .volatile =>
    let (store, s) := s.openVolatile
    (.ok store, s, [])
  | .durable =>
    match s.openDurable config.database config.table with
    | .error fault => (.error fault, s, [])
    | .ok (store, s) => (.ok store, s, [reportOpened config.database config.table])

/-- The connection of a durable store, if it is open. -/
def connection? (s : Storage) (number : Nat) : Option Connection :=
  s.connections[number]?.filter (!·.closed)

/-- Closes a durable store for all who hold it; one in memory stays as it is. -/
def close (s : Storage) : Store → Storage
  | .volatile _ => s
  | .durable number =>
    { s with connections := s.connections.modify number fun c => { c with closed := true } }

/-- Whether a store can serve requests. -/
def isOpen (s : Storage) : Store → Bool
  | .volatile _ => true
  | .durable number => (s.connection? number).isSome

/-! ### Subscriptions -/

/-- The listings of a volatile store. -/
def listings (s : Storage) (number : Nat) : Listings :=
  s.volatiles[number]?.getD []

/-- The storage with the listings of a volatile store changed. -/
def modifyListings (s : Storage) (number : Nat) (f : Listings → Listings) : Storage :=
  { s with volatiles := s.volatiles.modify number f }

/-- The URLs to which a user subscribes, in the order in which they were added. -/
def list (s : Storage) (store : Store) (user : String) : Except StoreFault (List String) :=
  match store with
  | .volatile number => .ok ((s.listings number).urls user)
  | .durable number =>
    match s.connection? number with
    | none => .error .closed
    | some c => .ok ((s.tableOf c).urls user)

/-- The report that a subscription is there already. -/
def reportPresent (user url : String) : LogEvent :=
  ⟨.debug, "Already subscribed", [("user", user), ("url", url)]⟩

/-- The report that a subscription is not there. -/
def reportAbsent (user url : String) : LogEvent :=
  ⟨.debug, "Unsubscribe of absent subscription ignored", [("user", user), ("url", url)]⟩

/-- Adds a subscription; one that is there already stays where it is. -/
def add (s : Storage) (store : Store) (user url : String) :
    Except StoreFault Unit × Storage × Log :=
  match requireUserAndUrl user url, store with
  | .error fault, _ => (.error fault, s, [])
  | .ok (), .volatile number => (.ok (), s.modifyListings number (·.add user url), [])
  | .ok (), .durable number =>
    match s.connection? number with
    | none => (.error .closed, s, [])
    | some c =>
      let log := if (s.tableOf c).holds ⟨user, url⟩ then [reportPresent user url] else []
      (.ok (), s.modifyTable c (·.insert ⟨user, url⟩), log)

/-- Removes a subscription; one that is not there is no fault. -/
def remove (s : Storage) (store : Store) (user url : String) :
    Except StoreFault Unit × Storage × Log :=
  match requireUserAndUrl user url, store with
  | .error fault, _ => (.error fault, s, [])
  | .ok (), .volatile number => (.ok (), s.modifyListings number (·.remove user url), [])
  | .ok (), .durable number =>
    match s.connection? number with
    | none => (.error .closed, s, [])
    | some c =>
      let log := if (s.tableOf c).holds ⟨user, url⟩ then [] else [reportAbsent user url]
      (.ok (), s.modifyTable c (·.delete ⟨user, url⟩), log)

end Storage

end Newsstand
