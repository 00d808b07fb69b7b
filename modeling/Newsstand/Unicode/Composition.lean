import Newsstand.Unicode.Combining

/-!
# Composed text

The canonical composed form of a text: every character is taken apart, marks are put into the order
of their combining classes, and each starter takes up the marks behind it that it forms a character
with. Hangul syllables follow their arithmetic; all other pairs come from a table.
-/

namespace Newsstand.Unicode

/-! ### Hangul syllables -/

/-- The three jamo numbers of a syllable, if the code point is one; the last number is zero for a
syllable without a final consonant. -/
def hangulParts? (code : Nat) : Option (Nat × Nat × Nat) :=
  if 0xAC00 ≤ code ∧ code < 0xAC00 + 11172 then
    let index := code - 0xAC00
    some (index / 588, index % 588 / 28, index % 28)
  else none

/-- The syllable that a pair of code points forms. -/
def hangulPair? (first second : Nat) : Option Nat :=
  if 0x1100 ≤ first ∧ first < 0x1113 ∧ 0x1161 ≤ second ∧ second < 0x1176 then
    some (0xAC00 + ((first - 0x1100) * 21 + (second - 0x1161)) * 28)
  else
    match hangulParts? first with
    | some (_, _, 0) =>
      if 0x11A7 < second ∧ second < 0x11C3 then some (first + (second - 0x11A7)) else none
    | _ => none

/-! ### Taking apart -/

/-- The parts of a code point. A composed character's first part may be composed itself, which
`depth` bounds. -/
def decompose (depth code : Nat) : List Nat :=
  match depth with
  | 0 => [code]
  | depth + 1 =>
    match hangulParts? code with
    | some (l, v, 0) => [0x1100 + l, 0x1161 + v]
    | some (l, v, t) => [0x1100 + l, 0x1161 + v, 0x11A7 + t]
    | none =>
      match (lookup? compositions code).map (·.values) with
      | some [first, second] => decompose depth first ++ [second]
      | _ => [code]

/-- Puts a mark at its place in a reversed text: in front of the marks of a higher class. -/
def insertMark (code : Nat) : List Nat → List Nat
  | [] => [code]
  | last :: rest =>
    if combiningClass code < combiningClass last then last :: insertMark code rest
    else code :: last :: rest

/-- The text with its marks in the order of their classes. -/
def orderMarks (codes : List Nat) : List Nat :=
  (codes.foldl (fun done code =>
    if combiningClass code = 0 then code :: done else insertMark code done) []).reverse

/-! ### Putting together -/

/-- The character that a pair of code points forms. -/
def pair? (first second : Nat) : Option Nat :=
  match hangulPair? first second with
  | some code => some code
  | none => (compositions.find? (·.values == [first, second])).map (·.first)

/-- A text in composition: what is done, the last starter, and the marks behind it that it did not
take up; both lists have their last character first. -/
structure Partial where
  done : List Nat
  starter : Option Nat
  pending : List Nat

/-- The text so far, its last character first. -/
def Partial.flush (p : Partial) : List Nat :=
  p.pending ++ p.starter.toList ++ p.done

/-- Whether a mark is kept from the starter by the marks between them. -/
def Partial.blocks (p : Partial) (code : Nat) : Bool :=
  match p.pending with
  | [] => false
  | last :: _ => combiningClass code ≤ combiningClass last

/-- The text in composition with one more character. -/
def Partial.push (p : Partial) (code : Nat) : Partial :=
  let composed := if p.blocks code then none else p.starter.bind (pair? · code)
  match composed with
  | some starter => { p with starter := some starter }
  | none =>
    if combiningClass code = 0 then ⟨p.flush, some code, []⟩
    else { p with pending := code :: p.pending }

/-- The composed form of a text. -/
def compose (codes : List Nat) : List Nat :=
  let parts := orderMarks (codes.flatMap (decompose 8))
  (parts.foldl Partial.push ⟨[], none, []⟩).flush.reverse

end Newsstand.Unicode
