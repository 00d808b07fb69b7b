import Newsstand.Toml.Blank

/-!
# Dates and times of TOML

A date, a time of day, or both with an offset from universal time. Every field has a fixed number of
digits and a range; of the values only the form is checked.
-/

namespace Newsstand.Toml

open Reader

/-- Reads a number of `count` digits between two bounds. -/
def field (count low high : Nat) : Reader Nat :=
  convert (do
    let ds := (← get).rest.take count
    if ds.length = count ∧ ds.all Char.isDigit = true then
      drop count
      return ds
    else fail)
    fun ds =>
      let n := ds.foldl (fun n c => n * 10 + (c.toNat - 0x30)) 0
      if low ≤ n ∧ n ≤ high then some n else none

/-- The number of days of a month. -/
def daysOf (year month : Nat) : Nat :=
  if month = 2 then
    if (year % 4 = 0 ∧ year % 100 ≠ 0) ∨ year % 400 = 0 then 29 else 28
  else if month = 4 ∨ month = 6 ∨ month = 9 ∨ month = 11 then 30
  else 31

/-- Reads a date. -/
def fullDate : Reader Unit := do
  let year ← field 4 0 9999
  char '-'
  commit (do
    let month ← field 2 1 12
    char '-'
    let start ← position
    let day ← field 2 1 31
    if daysOf year month < day then failAt start)

/-- Reads a time of day up to an hour. -/
def timeUpTo (lastHour : Nat) : Reader Unit := do
  let _ ← field 2 0 lastHour
  char ':'
  commit (do
    let _ ← field 2 0 59
    char ':'
    let _ ← field 2 0 60
    let _ ← optional (do
      char '.'
      let _ ← one Char.isDigit
      takeWhile Char.isDigit))

/-- Reads a time of day. -/
def partialTime : Reader Unit :=
  timeUpTo 23

/-- Reads an offset from universal time. -/
def timeOffset : Reader Unit := do
  let c ← one fun c => c == 'Z' || c == 'z' || c == '+' || c == '-'
  if c == '+' || c == '-' then
    commit (do
      let _ ← field 2 0 23
      char ':'
      let _ ← field 2 0 59)

/-- Reads the time of day behind a date. -/
def timeOfDate : Reader Unit := do
  let _ ← one fun c => c == 'T' || c == 't' || c == ' '
  partialTime
  let _ ← optional timeOffset

/-- Reads a date with a time, a date or a time. -/
def dateTime : Reader Unit :=
  orElse (do fullDate; let _ ← optional timeOfDate) partialTime

/-- Reads an offset of at most one day. -/
def dayOffset : Reader Unit := do
  let c ← one fun c => c == 'Z' || c == 'z' || c == '+' || c == '-'
  if c == '+' || c == '-' then
    let hours ← field 2 0 99
    char ':'
    let minutes ← field 2 0 99
    if 24 * 60 < hours * 60 + minutes then fail

/-- Reads a date with a time and an offset, a date or a time. Here a day has an hour 24, too. -/
def lenientDateTime : Reader Unit := do
  if (← get).rest[2]? = some ':' then timeUpTo 24
  else
    fullDate
    match ← peek? with
    | none => return
    | some _ => do
      let _ ← one fun c => c == 'T' || c == 't' || c == ' '
      timeUpTo 24
      match ← peek? with
      | none => return
      | some _ => dayOffset

/-- Whether a string that is to stand for a date or a time is one. -/
def isDate (text : List Char) : Bool :=
  match lenientDateTime.run ⟨0, text, text.length⟩ with
  | .ok (_, cursor) => cursor.rest.isEmpty
  | .error _ => false

end Newsstand.Toml
