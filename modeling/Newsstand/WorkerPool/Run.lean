import Newsstand.WorkerPool.Basic

/-!
# Runs of a worker pool

A pool with the callers who hold a worker and those who wait for one, each known by a name, and the
steps that they take.
-/

namespace Newsstand

namespace WorkerPool

/-- A pool, the names under which workers are held, and the names under which callers wait with the
numbers of their places. -/
structure Run where
  pool : WorkerPool
  holders : List String
  waiting : List (String × Nat)
  deriving Repr

/-- A step of a run. -/
inductive Step where
  | acquire (caller : String)
  | poll (caller : String)
  | release (caller : String)
  | cancel (caller : String)
  deriving DecidableEq, Repr

/-- What a step comes to. -/
inductive Reply where
  | acquired
  | refused
  | waiting
  | released
  | cancelled
  | notHeld
  | notWaiting
  deriving DecidableEq, Repr

/-- The start of a run. -/
def Run.start (pool : WorkerPool) : Run :=
  ⟨pool, [], []⟩

/-- Gives back the worker that is held under a name, if there is one. -/
def Run.release (r : Run) (caller : String) : Bool × Run :=
  if r.holders.contains caller then
    (true, { r with pool := r.pool.release, holders := r.holders.filter (· != caller) })
  else (false, r)

/-- Stops waiting under a name, if someone does. -/
def Run.cancel (r : Run) (caller : String) : Bool × Run :=
  match r.waiting.lookup caller with
  | none => (false, r)
  | some number =>
    (true, { r with
      pool := r.pool.cancel number
      waiting := r.waiting.filter (·.1 != caller) })

/-- Holds a worker under a name; the one that was held under it is given back. -/
def Run.hold (r : Run) (caller : String) : Run :=
  let r := (r.release caller).2
  { r with holders := caller :: r.holders }

/-- Waits under a name; who has waited under it stops waiting. -/
def Run.wait (r : Run) (caller : String) (number : Nat) : Run :=
  let r := (r.cancel caller).2
  { r with waiting := (caller, number) :: r.waiting }

/-- Takes a step. -/
def Run.step (r : Run) : Step → Reply × Run × Log
  | .acquire caller =>
    match r.pool.acquire with
    | (.worker, pool, log) => (.acquired, { r with pool }.hold caller, log)
    | (.place number, pool, log) => (.waiting, { r with pool }.wait caller number, log)
    | (.refused, pool, log) => (.refused, { r with pool }, log)
  | .poll caller =>
    match r.waiting.lookup caller with
    | none => (.notWaiting, r, [])
    | some number =>
      match r.pool.poll number with
      | (false, pool) => (.waiting, { r with pool }, [])
      | (true, pool) =>
        let waiting := r.waiting.filter (·.1 != caller)
        (.acquired, { r with pool, waiting }.hold caller, [])
  | .release caller =>
    let (held, r) := r.release caller
    (if held then .released else .notHeld, r, [])
  | .cancel caller =>
    let (waits, r) := r.cancel caller
    (if waits then .cancelled else .notWaiting, r, [])

/-- Takes one step after another. -/
def Run.steps (r : Run) : List Step → Run
  | [] => r
  | step :: steps => (r.step step).2.1.steps steps

end WorkerPool

end Newsstand
