import Newsstand.Store.Basic

/-!
# Runs of stores

Several stores side by side, each known by a name, and the steps that are taken on them. Two names
may stand for the same store.
-/

namespace Newsstand

namespace Storage

/-- The storage and the stores by their names. -/
structure Run where
  storage : Storage
  stores : List (String × Store)
  deriving DecidableEq, Repr

/-- What is done with a store. -/
inductive Action where
  /-- Shares the store under another name. -/
  | share (name : String)
  | list (user : String)
  | add (user url : String)
  | remove (user url : String)
  | askOpen
  | close
  deriving DecidableEq, Repr

/-- A step of a run. -/
inductive Step where
  /-- Opens a store under a name. -/
  | openAs (name : String) (config : StoreConfig)
  /-- Does something with the store of a name. -/
  | act (name : String) (action : Action)
  deriving DecidableEq, Repr

/-- What a step comes to. -/
inductive Reply where
  | opened (backend : Backend)
  | done
  | urls (urls : List String)
  | isOpen (isOpen : Bool)
  | failed (fault : StoreFault)
  /-- No store has the name. -/
  | unknown (name : String)
  deriving DecidableEq, Repr

/-- The reply on a change. -/
def Reply.ofChange : Except StoreFault Unit → Reply
  | .ok () => .done
  | .error fault => .failed fault

/-- The run with a store under a name. -/
def Run.name (r : Run) (name : String) (store : Store) : Run :=
  { r with stores := (name, store) :: r.stores.filter (·.1 != name) }

/-- Does something with a store. -/
def Run.act (r : Run) (store : Store) : Action → Reply × Run × Log
  | .share name => (.done, r.name name store, [])
  | .list user =>
    match r.storage.list store user with
    | .ok urls => (.urls urls, r, [])
    | .error fault => (.failed fault, r, [])
  | .add user url =>
    let (change, storage, log) := r.storage.add store user url
    (.ofChange change, { r with storage }, log)
  | .remove user url =>
    let (change, storage, log) := r.storage.remove store user url
    (.ofChange change, { r with storage }, log)
  | .askOpen => (.isOpen (r.storage.isOpen store), r, [])
  | .close => (.done, { r with storage := r.storage.close store }, [])

/-- Takes a step. A store that cannot be opened leaves another one of its name in place. -/
def Run.step (r : Run) : Step → Reply × Run × Log
  | .openAs name config =>
    match r.storage.openStore config with
    | (.error fault, storage, log) => (.failed fault, { r with storage }, log)
    | (.ok store, storage, log) =>
      (.opened store.backend, { r with storage }.name name store, log)
  | .act name action =>
    match r.stores.lookup name with
    | none => (.unknown name, r, [])
    | some store => r.act store action

/-- Takes one step after another. -/
def Run.steps (r : Run) : List Step → Run
  | [] => r
  | step :: steps => (r.step step).2.1.steps steps

end Storage

end Newsstand
