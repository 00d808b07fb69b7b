/-!
# Punycode

A text beyond ASCII written in ASCII letters, digits and hyphens. The ASCII characters come first;
behind the last hyphen, each further character is written as the distance from the one before it, in
the order of code points and places. Distances are numbers in base 36 whose digits end at a
threshold that adapts to the distances met.
-/

namespace Newsstand.Punycode

/-- The digit with a value below 36. -/
def digit (n : Nat) : Char :=
  if n < 26 then Char.ofNat (0x61 + n) else Char.ofNat (0x30 + (n - 26))

/-- The value of a digit. -/
def digitValue? (c : Char) : Option Nat :=
  if 'a' ≤ c ∧ c ≤ 'z' then some (c.toNat - 0x61)
  else if 'A' ≤ c ∧ c ≤ 'Z' then some (c.toNat - 0x41)
  else if '0' ≤ c ∧ c ≤ '9' then some (c.toNat - 0x30 + 26)
  else none

/-- The value below which a digit is the last one of its number; `position` counts in steps of
36. -/
def threshold (position bias : Nat) : Nat :=
  if position ≤ bias then 1 else min 26 (position - bias)

theorem threshold_pos (position bias : Nat) : 1 ≤ threshold position bias := by
  unfold threshold
  split <;> omega

/-- Divides a distance down to the range of the bias; also counts the steps of 36. -/
def shrink (delta steps : Nat) : Nat × Nat :=
  if 455 < delta then shrink (delta / 35) (steps + 36) else (delta, steps)
termination_by delta
decreasing_by exact Nat.div_lt_self (by omega) (by omega)

/-- The bias after a distance, the `count`-th character being placed; the first distance counts
less. -/
def adapt (delta count : Nat) (first : Bool) : Nat :=
  let delta := if first then delta / 700 else delta / 2
  let (delta, steps) := shrink (delta + delta / count) 0
  steps + 36 * delta / (delta + 38)

/-! ### Reading -/

/-- The state between two digits: the characters so far, the current code point and place, the
place at which the current number started, and the weight and position of its next digit. -/
structure Reader where
  text : List Char
  code : Nat
  place : Nat
  bias : Nat
  origin : Nat
  weight : Nat
  position : Nat

/-- The state behind the ASCII characters. -/
def Reader.start (text : List Char) : Reader :=
  ⟨text, 128, 0, 72, 0, 1, 36⟩

/-- Whether no number is begun. -/
def Reader.isComplete (r : Reader) : Bool :=
  r.position == 36

/-- The state behind one more digit; none if it places a number that is no character. -/
def Reader.push? (r : Reader) (d : Nat) : Option Reader :=
  let place := r.place + d * r.weight
  let limit := threshold r.position r.bias
  if UInt32.size ≤ place then none
  else if d < limit then
    let count := r.text.length + 1
    let code := r.code + place / count
    let index := place % count
    if code.isValidChar then
      some ⟨r.text.take index ++ Char.ofNat code :: r.text.drop index, code, index + 1,
        adapt (place - r.origin) count (r.origin == 0), index + 1, 1, 36⟩
    else none
  else
    some { r with place, weight := r.weight * (36 - limit), position := r.position + 36 }

/-- Reads the digits behind the last hyphen. -/
def readDigits (r : Reader) : List Char → Option (List Char)
  | [] => if r.isComplete then some r.text else none
  | c :: rest =>
    match (digitValue? c).bind r.push? with
    | none => none
    | some r => readDigits r rest

/-- The text that a written form stands for. -/
def decode? (cs : List Char) : Option (List Char) :=
  let digits := (cs.reverse.takeWhile (· != '-')).reverse
  let ascii := (cs.reverse.dropWhile (· != '-')).reverse.dropLast
  if ascii = [] then readDigits (Reader.start []) cs
  else readDigits (Reader.start ascii) digits

/-! ### Writing -/

/-- The digits of a number under a bias. -/
def writeNumber (bias position n : Nat) : List Char :=
  let limit := threshold position bias
  if n < limit then [digit n]
  else
    digit (limit + (n - limit) % (36 - limit))
      :: writeNumber bias (position + 36) ((n - limit) / (36 - limit))
termination_by n
decreasing_by
  have hpos := threshold_pos position bias
  calc (n - threshold position bias) / (36 - threshold position bias)
      ≤ n - threshold position bias := Nat.div_le_self _ _
    _ < n := by omega

/-- The state of writing: the digits so far, the distance since the last written character, the
bias, the number of characters written, and whether none beyond ASCII is. -/
structure Writer where
  digits : List Char
  delta : Nat
  bias : Nat
  count : Nat
  first : Bool

/-- Passes one character of the text in the round of `code`. -/
def Writer.pass (code : Nat) (w : Writer) (c : Char) : Writer :=
  if c.toNat < code then { w with delta := w.delta + 1 }
  else if c.toNat = code then
    ⟨w.digits ++ writeNumber w.bias 36 w.delta, 0, adapt w.delta (w.count + 1) w.first,
      w.count + 1, false⟩
  else w

/-- Writes the characters of the given code points, which ascend, in rounds over the text; `from_`
is the code point at which the first round starts. -/
def writeRounds (text : List Char) (from_ : Nat) (w : Writer) : List Nat → List Char
  | [] => w.digits
  | code :: codes =>
    let w := { w with delta := w.delta + (code - from_) * (w.count + 1) }
    let w := text.foldl (Writer.pass code) w
    writeRounds text (code + 1) { w with delta := w.delta + 1 } codes

/-- Puts a number into an ascending list, once. -/
def insertAscending (n : Nat) : List Nat → List Nat
  | [] => [n]
  | m :: rest =>
    if n < m then n :: m :: rest else if n = m then m :: rest else m :: insertAscending n rest

/-- The written form of a text. -/
def encode (text : List Char) : List Char :=
  let ascii := text.filter (·.toNat < 128)
  let codes := ((text.map Char.toNat).filter (128 ≤ ·)).foldr insertAscending []
  let start := if ascii = [] then [] else ascii ++ ['-']
  start ++ writeRounds text 128 ⟨[], 0, 72, ascii.length, true⟩ codes

end Newsstand.Punycode
