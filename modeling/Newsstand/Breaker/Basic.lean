import Newsstand.Breaker.Window
import Newsstand.Config.Basic
import Newsstand.Log

/-!
# Circuit breakers

A breaker decides which calls are made. While its circuit is closed it admits all of them and counts
how they end; once enough of the calls in its window have failed it opens the circuit and refuses
all. After a while it half-opens the circuit to admit one call on trial: if that succeeds the
circuit closes, and otherwise it opens again.

Whoever is admitted holds a permit, and settles it with the outcome of the call. A permit may also
be abandoned; an abandoned trial counts as one that has failed, and any other abandoned call as
none.
-/

namespace Newsstand

/-- The state of a circuit. -/
inductive Circuit where
  | closed
  | opened
  | halfOpen
  deriving DecidableEq, Repr

/-- The right to make a call. -/
inductive Permit where
  /-- A call among others. -/
  | ordinary
  /-- The one call by which a circuit is tried out. -/
  | trial
  deriving DecidableEq, Repr

/-- How a call ends. -/
inductive Outcome where
  | success
  | failure
  | abandoned
  deriving DecidableEq, Repr

/-- A breaker: the name of what it guards, its thresholds, the circuit with the time at which it was
last opened, the number of refused calls, and the window. -/
structure Breaker where
  name : String
  errorPercent : Nat
  volume : Nat
  sleepMs : Nat
  circuit : Circuit
  openedAt : Nat
  refused : Nat
  window : Window
  deriving DecidableEq, Repr

namespace Breaker

/-- A breaker with a closed circuit. A share of failures above the whole means the whole, and at
least one call is needed to open the circuit. -/
def ofConfig (name : String) (config : BreakerConfig) : Breaker where
  name := name
  errorPercent := min 100 config.errorThresholdPercent
  volume := max 1 config.requestVolumeThreshold
  sleepMs := config.sleepWindowMs
  circuit := .closed
  openedAt := 0
  refused := 0
  window := .ofSpan config.rollingWindowMs config.windowBuckets

/-- The report that the circuit is open. -/
def reportOpened (b : Breaker) : LogEvent :=
  ⟨.info, "Circuit breaker opened",
    [("group", b.name), ("sleep_window_ms", toString b.sleepMs)]⟩

/-- The report that a call is admitted on trial. -/
def reportTrial (b : Breaker) : LogEvent :=
  ⟨.info, "Circuit breaker half-open, admitting trial call", [("group", b.name)]⟩

/-- The report that the circuit is closed again. -/
def reportClosed (b : Breaker) : LogEvent :=
  ⟨.info, "Circuit breaker closed after successful trial", [("group", b.name)]⟩

/-- Whether an open circuit has been open for long enough to be tried. -/
def hasSlept (b : Breaker) (now : Nat) : Bool :=
  b.sleepMs ≤ now - b.openedAt

/-- Whether the calls in the window are so many, and so many of them failures, that the circuit has
to be open. -/
def exceeds (b : Breaker) (now : Nat) : Bool :=
  b.volume ≤ b.window.total now
    && b.errorPercent * b.window.total now ≤ b.window.failures now * 100

/-- The breaker with one more refused call. -/
def refuse (b : Breaker) : Breaker :=
  { b with refused := b.refused + 1 }

/-- Asks to make a call. -/
def ask (b : Breaker) (now : Nat) : Option Permit × Breaker × Log :=
  match b.circuit with
  | .closed => (some .ordinary, b, [])
  | .opened =>
    if b.hasSlept now then (some .trial, { b with circuit := .halfOpen }, [b.reportTrial])
    else (none, b.refuse, [])
  | .halfOpen => (none, b.refuse, [])

/-- Opens the circuit if it is in the state `expected`; the time is kept in any case. -/
def trip (b : Breaker) (expected : Circuit) (now : Nat) : Breaker × Log :=
  let b := { b with openedAt := now }
  if b.circuit = expected then ({ b with circuit := .opened }, [b.reportOpened]) else (b, [])

/-- The breaker with one more outcome in its window. -/
def count (b : Breaker) (now : Nat) (success : Bool) : Breaker :=
  { b with window := b.window.record now success }

/-- Settles a permit. -/
def settle (b : Breaker) (now : Nat) : Permit → Outcome → Breaker × Log
  | .trial, .success =>
    ({ b with window := b.window.reset, circuit := .closed }, [b.reportClosed])
  | .trial, .failure => b.trip .halfOpen now
  | .trial, .abandoned => b.trip .halfOpen now
  | .ordinary, .success => (b.count now true, [])
  | .ordinary, .failure =>
    let b := b.count now false
    if b.circuit = .closed && b.exceeds now then b.trip .closed now else (b, [])
  | .ordinary, .abandoned => (b, [])

end Breaker

end Newsstand
