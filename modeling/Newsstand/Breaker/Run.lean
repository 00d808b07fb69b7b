import Newsstand.Breaker.Basic

/-!
# Runs of a circuit breaker

A breaker with a clock and with the permits that are still to be settled, and the steps that callers
take on it: they ask to make calls, settle permits in any order, and let time pass. A permit is
known by the name under which its holder keeps it.
-/

namespace Newsstand

namespace Breaker

/-- The reading of a clock after some milliseconds; a clock starts again after the largest number
of 64 bits. -/
def later (now ms : Nat) : Nat :=
  (now + ms) % UInt64.size

/-- A breaker, the time, and the permits that are held. -/
structure Run where
  breaker : Breaker
  now : Nat
  permits : List (String × Permit)
  deriving Repr

/-- A step of a run. -/
inductive Step where
  /-- Asks to make a call and keeps the permit. -/
  | call (holder : String)
  /-- Asks to make a call and settles the permit at once. -/
  | callWith (outcome : Outcome)
  /-- Settles the permit that is held under a name. -/
  | settle (holder : String) (outcome : Outcome)
  /-- Lets time pass. -/
  | advance (ms : Nat)
  deriving DecidableEq, Repr

/-- What a step comes to. -/
inductive Reply where
  | admitted (permit : Permit)
  | refused
  | settled (outcome : Outcome)
  | noPermit
  | advanced
  deriving DecidableEq, Repr

/-- The start of a run. -/
def Run.start (name : String) (config : BreakerConfig) : Run :=
  ⟨.ofConfig name config, 0, []⟩

/-- Settles the permit under a name if there is one. -/
def Run.settle (r : Run) (holder : String) (outcome : Outcome) : Bool × Run × Log :=
  match r.permits.lookup holder with
  | none => (false, r, [])
  | some permit =>
    let (breaker, log) := r.breaker.settle r.now permit outcome
    (true, { r with breaker, permits := r.permits.filter (·.1 != holder) }, log)

/-- Takes a step. A permit that is kept under the name of another one takes its place, and the other
one is abandoned. -/
def Run.step (r : Run) : Step → Reply × Run × Log
  | .call holder =>
    match r.breaker.ask r.now with
    | (none, breaker, log) => (.refused, { r with breaker }, log)
    | (some permit, breaker, log) =>
      let (_, r, dropLog) := { r with breaker }.settle holder .abandoned
      (.admitted permit, { r with permits := (holder, permit) :: r.permits }, log ++ dropLog)
  | .callWith outcome =>
    match r.breaker.ask r.now with
    | (none, breaker, log) => (.refused, { r with breaker }, log)
    | (some permit, breaker, log) =>
      let (breaker, settleLog) := breaker.settle r.now permit outcome
      (.admitted permit, { r with breaker }, log ++ settleLog)
  | .settle holder outcome =>
    match r.settle holder outcome with
    | (true, r, log) => (.settled outcome, r, log)
    | (false, r, log) => (.noPermit, r, log)
  | .advance ms => (.advanced, { r with now := later r.now ms }, [])

/-- Takes one step after another. -/
def Run.steps (r : Run) : List Step → Run
  | [] => r
  | step :: steps => (r.step step).2.1.steps steps

end Breaker

end Newsstand
