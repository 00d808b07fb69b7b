import Newsstand.Aggregator.Basic
import Newsstand.Breaker.RingBuffer

/-!
# Groups

What an aggregator fetches with, as a machine has it: the permits of a semaphore, and a ring buffer
with the limits by which it is judged. What a machine may be unable to do is checked, when a group
is made and when its numbers are compared.
-/

namespace Newsstand

/-- Why a group cannot be made. -/
inductive Group.Fault where
  /-- A semaphore does not have so many permits. -/
  | permits
  /-- A vector does not have so many octets. -/
  | octets
  /-- The ring buffer cannot be made. -/
  | buffer (fault : RingBuffer.Fault)
  deriving DecidableEq, Repr

/-- A group: its name, the permits of its semaphore, how many callers may wait, the limits of its
breaker with the time that it sleeps, and the ring buffer. -/
structure Group where
  name : String
  permits : Nat
  queueDepth : Nat
  errorPercent : Nat
  volume : Nat
  sleepMs : Nat
  buffer : RingBuffer
  deriving DecidableEq, Repr

namespace Group

/-- The permits of a semaphore. -/
def semaphore (permits : Nat) : Except Fault Nat :=
  if permits ≤ WorkerPool.maxSize then .ok permits else .error .permits

/-- The number of octets of a place, which are three words. -/
def placeSize : Nat := 24

/-- The largest number of octets of a vector. -/
def maxOctets : Nat := UInt64.size / 2 - 1

/-- The octets of a vector of places. -/
def vector (places : Nat) : Except Fault Nat :=
  if placeSize * places ≤ maxOctets then .ok (placeSize * places) else .error .octets

/-- The ring buffer of a breaker, for which there has to be room. -/
def makeBuffer (config : BreakerConfig) : Except Fault RingBuffer := do
  let _ ← vector (max 1 config.windowBuckets)
  (RingBuffer.ofSpan config.rollingWindowMs config.windowBuckets).mapError .buffer

/-- Makes a group as a configuration says. -/
def build (fetch : FetchConfig) (breaker : BreakerConfig) : Except Fault Group := do
  let permits ← semaphore (max 1 fetch.workerPoolSize)
  let buffer ← makeBuffer breaker
  return {
    name := fetch.group
    permits := permits
    queueDepth := fetch.queueDepth
    errorPercent := min 100 breaker.errorThresholdPercent
    volume := max 1 breaker.requestVolumeThreshold
    sleepMs := breaker.sleepWindowMs
    buffer := buffer }

/-- The product of two words. -/
def product (a b : Nat) : Except RingBuffer.Fault Nat :=
  if a * b < UInt64.size then .ok (a * b) else .error .count

/-- Whether so many calls, with so many failures among them, open the circuit. Shares are compared
only where there are enough calls. -/
def judge (g : Group) (total failures : Nat) : Except RingBuffer.Fault Bool := do
  if total < g.volume then return false
  else
    let share ← product failures 100
    let limit ← product g.errorPercent total
    return limit ≤ share

/-- Whether what counts at a time opens the circuit, after some deeds that are listed from the first
to the latest. -/
def judgeAfter (g : Group) (deeds : List Window.Deed) (now : Nat) :
    Except RingBuffer.Fault Bool := do
  let buffer ← deeds.foldlM RingBuffer.act g.buffer
  let (total, failures) ← buffer.totals now
  g.judge total failures

end Group

end Newsstand
