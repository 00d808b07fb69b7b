import Newsstand.Log

/-!
# Worker pools

A fixed number of workers and a queue of callers. A caller takes a free worker, or waits for one if
there is room in the queue. A worker that is given back goes to the caller who has waited longest
and has none yet, at once, even before that caller looks; who stops waiting passes such a worker on.
A caller keeps its place in the queue until it has taken its worker or has gone.
-/

namespace Newsstand

/-- A caller in the queue: its number, and whether a worker has been assigned to it. -/
structure Ticket where
  number : Nat
  assigned : Bool
  deriving DecidableEq, Repr

/-- A pool: the name of what it works for, the number of its workers and of those who are free, the
number of callers who may wait and of those who are counted as waiting, the queue in the order of
their arrival, and the number for the next one. -/
structure WorkerPool where
  name : String
  size : Nat
  queueDepth : Nat
  free : Nat
  waiting : Nat
  queue : List Ticket
  nextNumber : Nat
  deriving DecidableEq, Repr

namespace WorkerPool

/-- A pool whose workers are all free. There is at least one. -/
def create (name : String) (size queueDepth : Nat) : WorkerPool where
  name := name
  size := max 1 size
  queueDepth := queueDepth
  free := max 1 size
  waiting := 0
  queue := []
  nextNumber := 0

/-- The number of workers in use, those among them that are assigned but not taken yet. -/
def active (p : WorkerPool) : Nat :=
  p.size - p.free

/-- What a caller gets. -/
inductive Grant where
  | worker
  /-- A place in the queue, by its number. -/
  | place (number : Nat)
  | refused
  deriving DecidableEq, Repr

/-- The report that a caller is turned away. -/
def reportFull (p : WorkerPool) : LogEvent :=
  ⟨.debug, "Worker queue full, rejecting call",
    [("group", p.name), ("queue_depth", toString p.queueDepth)]⟩

/-- The pool with one more caller counted as waiting. -/
def count (p : WorkerPool) : WorkerPool :=
  { p with waiting := p.waiting + 1 }

/-- The pool with one caller fewer counted as waiting. -/
def discount (p : WorkerPool) : WorkerPool :=
  { p with waiting := p.waiting - 1 }

/-- Asks for a worker. Who finds none is counted first and turned away if that makes too many. -/
def acquire (p : WorkerPool) : Grant × WorkerPool × Log :=
  if 0 < p.free then (.worker, { p with free := p.free - 1 }, [])
  else
    let counted := p.count
    if p.queueDepth < counted.waiting then (.refused, counted.discount, [p.reportFull])
    else
      (.place p.nextNumber,
        { counted with
          queue := p.queue ++ [⟨p.nextNumber, false⟩]
          nextNumber := p.nextNumber + 1 }, [])

/-- The queue with a worker for the first caller who has none, if there is such a caller. -/
def assignFirst : List Ticket → Option (List Ticket)
  | [] => none
  | t :: queue =>
    if t.assigned then (assignFirst queue).map (t :: ·)
    else some ({ t with assigned := true } :: queue)

/-- Gives a worker back. -/
def release (p : WorkerPool) : WorkerPool :=
  match assignFirst p.queue with
  | some queue => { p with queue }
  | none => { p with free := p.free + 1 }

/-- Whether a caller in the queue has been assigned a worker. -/
def isAssigned (p : WorkerPool) (number : Nat) : Bool :=
  p.queue.any fun t => t.number == number && t.assigned

/-- The pool without one of the callers in its queue. -/
def leave (p : WorkerPool) (number : Nat) : WorkerPool :=
  { p with waiting := p.waiting - 1, queue := p.queue.filter (·.number != number) }

/-- Looks whether a caller's worker has come, and takes it. -/
def poll (p : WorkerPool) (number : Nat) : Bool × WorkerPool :=
  if p.isAssigned number then (true, p.leave number) else (false, p)

/-- Stops waiting; a worker that was assigned already goes to the next caller. -/
def cancel (p : WorkerPool) (number : Nat) : WorkerPool :=
  if p.isAssigned number then (p.leave number).release else p.leave number

end WorkerPool

end Newsstand
