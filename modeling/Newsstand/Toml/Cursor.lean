/-!
# Reading with a place

A reader takes characters off the front of a text and keeps count of them. Where it stops, the fault
is the place it has reached. A fault may be final; another one may still be mended by trying
something else from an earlier place.
-/

namespace Newsstand.Toml

/-- The rest of a text, the number of characters before it, and the size of the whole text. -/
structure Cursor where
  pos : Nat
  rest : List Char
  size : Nat

/-- Where reading stops, and whether nothing else is to be tried. -/
structure Stop where
  pos : Nat
  final : Bool

/-- A function that reads a value off the front of a text. -/
abbrev Reader (α : Type) := StateT Cursor (Except Stop) α

namespace Reader

/-- The place reached. -/
def position : Reader Nat := do
  return (← get).pos

/-- A bound on the number of parts of what is left of the text. -/
def bound : Reader Nat := do
  return (← get).size + 1

/-- Stops at a place. -/
def failAt {α : Type} (pos : Nat) : Reader α :=
  throw ⟨pos, false⟩

/-- Stops at the place reached. -/
def fail {α : Type} : Reader α := do
  failAt (← position)

/-- The next character, which is not taken. -/
def peek? : Reader (Option Char) := do
  return (← get).rest.head?

/-- Passes over `n` characters, which have to be there. -/
def drop (n : Nat) : Reader Unit :=
  modify fun c => { c with pos := c.pos + n, rest := c.rest.drop n }

/-- Passes over the next character. -/
def next : Reader Unit :=
  modify fun c =>
    match c.rest with
    | [] => c
    | _ :: rest => { c with pos := c.pos + 1, rest }

/-- Whether a text comes next; it is not taken. -/
def ahead (text : List Char) : Reader Bool := do
  return (← get).rest.take text.length == text

/-- Takes the characters up to the first that does not satisfy `p`. -/
def takeWhile (p : Char → Bool) : Reader (List Char) := do
  let c ← get
  let taken := c.rest.takeWhile p
  drop taken.length
  return taken

/-- Takes a character that satisfies `p`. -/
def one (p : Char → Bool) : Reader Char := do
  match ← peek? with
  | some c => if p c then do next; return c else fail
  | none => fail

/-- Takes a given character. -/
def char (c : Char) : Reader Unit := do
  let _ ← one (· == c)

/-- Makes every fault of a reader final. -/
def commit {α : Type} (r : Reader α) : Reader α := fun c =>
  match r c with
  | .ok result => .ok result
  | .error stop => .error { stop with final := true }

/-- Reads with `first`; if that stops and the fault is not final, with `second` from the same
place. -/
def orElse {α : Type} (first second : Reader α) : Reader α := fun c =>
  match first c with
  | .ok result => .ok result
  | .error stop => if stop.final then .error stop else second c

/-- Reads a value if there is one; a fault that is not final takes nothing. -/
def optional {α : Type} (r : Reader α) : Reader (Option α) :=
  orElse (some <$> r) (pure none)

/-- Reads a value and converts it; if that fails, the fault is at the place where the value
starts. -/
def convert {α β : Type} (r : Reader α) (f : α → Option β) : Reader β := do
  let start ← position
  match f (← r) with
  | some b => return b
  | none => failAt start

/-- Reads values until there is none; `fuel` bounds their number. -/
def many {α : Type} (fuel : Nat) (done : List α) (r : Reader α) : Reader (List α) := do
  match fuel with
  | 0 => return done.reverse
  | fuel + 1 =>
    match ← optional r with
    | none => return done.reverse
    | some a => many fuel (a :: done) r

/-- Reads values with `sep` between each two of them; a separator without a value behind it is not
taken. `fuel` bounds the number of values. -/
def separated {α : Type} (fuel : Nat) (sep : Char) (r : Reader α) : Reader (List α) := do
  match ← optional r with
  | none => return []
  | some a => many fuel [a] (do char sep; r)

end Reader

end Newsstand.Toml
