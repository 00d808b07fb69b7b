/-!
# Rolling windows

How many calls ended of late, and how many of them in failure. Time is cut into slices of one width;
the last few slices count, the one that is going on among them. A window keeps the counts of a slice
until it has to count another slice whose number leaves the same remainder, so that it never holds
more slices than count.
-/

namespace Newsstand

/-- The counts of one slice of time. -/
structure Slice where
  number : Nat
  successes : Nat
  failures : Nat
  deriving DecidableEq, Repr

/-- The number of calls that ended in a slice. -/
def Slice.total (s : Slice) : Nat :=
  s.successes + s.failures

/-- The slice with one more outcome. -/
def Slice.record (s : Slice) (success : Bool) : Slice :=
  if success then { s with successes := s.successes + 1 }
  else { s with failures := s.failures + 1 }

/-- The slices that are kept, the number of slices that count, and the width of a slice. -/
structure Window where
  count : Nat
  width : Nat
  slices : List Slice
  count_pos : 0 < count
  width_pos : 0 < width
  deriving DecidableEq, Repr

namespace Window

/-- An empty window of `span` milliseconds in `count` slices. There is at least one slice, and a
slice has at least one millisecond. -/
def ofSpan (span count : Nat) : Window where
  count := max 1 count
  width := max 1 (span / max 1 count)
  slices := []
  count_pos := by omega
  width_pos := by omega

/-- The number of the slice in which a time lies; the first slice has the number one. -/
def sliceAt (w : Window) (now : Nat) : Nat :=
  now / w.width + 1

/-- The window with one more outcome. -/
def record (w : Window) (now : Nat) (success : Bool) : Window :=
  let number := w.sliceAt now
  let slice := (w.slices.find? (·.number == number)).getD ⟨number, 0, 0⟩
  let others := w.slices.filter fun s => s.number % w.count != number % w.count
  { w with slices := slice.record success :: others }

/-- The slices that count at a time. -/
def current (w : Window) (now : Nat) : List Slice :=
  w.slices.filter fun s => w.sliceAt now < s.number + w.count

/-- The number of calls that count at a time. -/
def total (w : Window) (now : Nat) : Nat :=
  (w.current now).foldr (fun s n => s.total + n) 0

/-- The number of failures that count at a time. -/
def failures (w : Window) (now : Nat) : Nat :=
  (w.current now).foldr (fun s n => s.failures + n) 0

/-- The window without any outcome. -/
def reset (w : Window) : Window :=
  { w with slices := [] }

end Window

end Newsstand
