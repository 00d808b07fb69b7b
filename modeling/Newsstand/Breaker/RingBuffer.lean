import Newsstand.Breaker.Window

/-!
# Ring buffers

How a window is kept in a fixed number of places and in words of 64 bits. The place of a slice is
the remainder of its number. Whoever counts in a slice clears the place if it holds another one, and
nobody clears a place because it is old. What a machine may be unable to do is checked: a division,
the reading of a place, and a sum.
-/

namespace Newsstand

/-- Something that can be done to a window. -/
inductive Window.Deed where
  /-- Counts how a call ended at a time. -/
  | record (now : Nat) (success : Bool)
  /-- Forgets all outcomes. -/
  | reset
  deriving DecidableEq, Repr

/-- What a machine cannot do. -/
inductive RingBuffer.Fault where
  /-- It cannot divide by zero. -/
  | division
  /-- There is no such place. -/
  | place
  /-- The number of a slice does not fit into a word. -/
  | number
  /-- A number of calls does not fit into a word. -/
  | count
  deriving DecidableEq, Repr

/-- The places, and the width of a slice. In a place that has not been written stands the slice with
the number zero, which is none. -/
structure RingBuffer where
  places : List Slice
  width : Nat
  deriving DecidableEq, Repr

namespace RingBuffer

/-- The quotient of two words. -/
def quotient (a b : Nat) : Except Fault Nat :=
  if b = 0 then .error .division else .ok (a / b)

/-- The remainder of two words. -/
def remainder (a b : Nat) : Except Fault Nat :=
  if b = 0 then .error .division else .ok (a % b)

/-- The sum of two words, or the fault if it does not fit into one. -/
def sum (fault : Fault) (a b : Nat) : Except Fault Nat :=
  if a + b < UInt64.size then .ok (a + b) else .error fault

/-- Nothing counted in the slice with a number. -/
def blank (number : Nat) : Slice :=
  ⟨number, 0, 0⟩

/-- A ring buffer that has not been written, for `span` milliseconds in `count` slices. -/
def ofSpan (span count : Nat) : Except Fault RingBuffer := do
  let width ← quotient span (max 1 count)
  return ⟨List.replicate (max 1 count) (blank 0), max 1 width⟩

/-- The number of the slice in which a time lies. -/
def sliceAt (r : RingBuffer) (now : Nat) : Except Fault Nat := do
  sum .number (← quotient now r.width) 1

/-- The place for a time, and the slice that stands there once it is cleared of any other one. -/
def slotAt (r : RingBuffer) (now : Nat) : Except Fault (Nat × Slice) := do
  let number ← r.sliceAt now
  let place ← remainder number r.places.length
  match r.places[place]? with
  | none => throw .place
  | some slice => return (place, if slice.number = number then slice else blank number)

/-- The slice with one more outcome. -/
def tick (slice : Slice) (success : Bool) : Except Fault Slice := do
  if success then return { slice with successes := ← sum .count slice.successes 1 }
  else return { slice with failures := ← sum .count slice.failures 1 }

/-- Counts how a call ended at a time. -/
def record (r : RingBuffer) (now : Nat) (success : Bool) : Except Fault RingBuffer := do
  let (place, slice) ← r.slotAt now
  let slice ← tick slice success
  return { r with places := r.places.set place slice }

/-- Clears all places. -/
def reset (r : RingBuffer) : RingBuffer :=
  { r with places := r.places.map fun _ => blank 0 }

/-- Whether what stands in a place counts when `current` is the number of the slice that goes on. -/
def counts (r : RingBuffer) (current : Nat) (slice : Slice) : Except Fault Bool := do
  if slice.number = 0 then return false
  else return current < (← sum .number slice.number r.places.length)

/-- Adds the calls and the failures of a place, if it counts. -/
def tally (r : RingBuffer) (current : Nat) (totals : Nat × Nat) (slice : Slice) :
    Except Fault (Nat × Nat) := do
  if ← r.counts current slice then
    let total ← sum .count totals.1 slice.successes
    let total ← sum .count total slice.failures
    let failures ← sum .count totals.2 slice.failures
    return (total, failures)
  else return totals

/-- The number of calls that count at a time, and of failures among them. -/
def totals (r : RingBuffer) (now : Nat) : Except Fault (Nat × Nat) := do
  let current ← r.sliceAt now
  r.places.foldlM (r.tally current) (0, 0)

/-- Does one thing. -/
def act (r : RingBuffer) : Window.Deed → Except Fault RingBuffer
  | .record now success => r.record now success
  | .reset => return r.reset

/-- What counts in a new ring buffer after some deeds, which are listed from the first to the
latest. -/
def totalsAfter (span count : Nat) (deeds : List Window.Deed) (now : Nat) :
    Except Fault (Nat × Nat) := do
  let r ← ofSpan span count
  let r ← deeds.foldlM act r
  r.totals now

end RingBuffer

end Newsstand
