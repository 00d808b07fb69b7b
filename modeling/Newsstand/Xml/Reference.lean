import Newsstand.Text.Blank
import Newsstand.Xml.Fault

/-!
# References in text and attribute values

A reference runs from an ampersand to the next semicolon. Five entities have a meaning, and a
reference that starts with `#` names a code point. `resolve` reads a whole text, `escape` is its
inverse for text between tags.
-/

namespace Newsstand.Xml

open Newsstand.Text

/-- The characters that the five predefined entities stand for. -/
def predefined (name : List Char) : Option Char :=
  if name = "lt".toList then some '<'
  else if name = "gt".toList then some '>'
  else if name = "amp".toList then some '&'
  else if name = "apos".toList then some '\''
  else if name = "quot".toList then some '"'
  else none

/-- The value of a digit in a base up to sixteen. -/
def digitValue (base : Nat) (c : Char) : Option Nat :=
  let n := c.toNat
  let value :=
    if 0x30 ≤ n ∧ n ≤ 0x39 then some (n - 0x30)
    else if 0x41 ≤ n ∧ n ≤ 0x46 then some (n - 0x41 + 10)
    else if 0x61 ≤ n ∧ n ≤ 0x66 then some (n - 0x61 + 10)
    else none
  value.filter (· < base)

/-- Reads digits into a number of 32 bits; the leftmost fault is reported. -/
def readDigits (base : Nat) (value : Nat) : List Char → Except NumberFault Nat
  | [] => .ok value
  | c :: rest =>
    match digitValue base c with
    | none => .error .badDigit
    | some d =>
      if value * base + d < UInt32.size then readDigits base (value * base + d) rest
      else .error .tooLarge

/-- The code point that a numeric reference names; `digits` is what follows its number sign. -/
def readNumber (digits : List Char) : Except NumberFault Char :=
  let (base, digits) :=
    match digits with
    | 'x' :: hex => (16, hex)
    | other => (10, other)
  match digits with
  | [] => .error .noDigits
  | '+' :: _ => .error .sign
  | '-' :: _ => .error .sign
  | digits =>
    match readDigits base 0 digits with
    | .error fault => .error fault
    | .ok code =>
      if code = 0 then .error .null
      else if h : code.isValidChar then .ok (Char.ofNatAux code h)
      else .error (.notCharacter code)

/-- Whether a character may stand inside a reference's name. -/
def inReference (c : Char) : Bool :=
  c != '&' && c != ';'

/-- The character that the reference `&name;` stands for; `start` is where its name begins. -/
def readReference (start : Nat) (name : List Char) : Except ReferenceFault Char :=
  match name with
  | '#' :: digits => (readNumber digits).mapError .number
  | name =>
    match predefined name with
    | some c => .ok c
    | none => .error (.unrecognized start (start + byteLength name) (String.ofList name))

/-- Resolves the references of what is left of a text of `total` octets, `pos` octets of which are
done; `done` holds the characters read so far, the last one first. -/
def resolveFrom (total pos : Nat) (done : List Char) (cs : List Char) :
    Except ReferenceFault (List Char) :=
  match cs with
  | [] => .ok done.reverse
  | c :: rest =>
    if c = '&' then
      let name := rest.takeWhile inReference
      match _h : rest.dropWhile inReference with
      | ';' :: rest' =>
        match readReference (pos + 1) name with
        | .error fault => .error fault
        | .ok c' => resolveFrom total (pos + byteLength name + 2) (c' :: done) rest'
      | _ => .error (.unterminated pos total)
    else resolveFrom total (pos + c.utf8Size) (c :: done) rest
termination_by cs.length
decreasing_by
  · have := length_dropWhile_le inReference rest
    rw [_h] at this
    simp only [List.length_cons] at this ⊢
    omega
  · simp

/-- The text with every reference replaced by the character it stands for. -/
def resolve (cs : List Char) : Except ReferenceFault (List Char) :=
  resolveFrom (byteLength cs) 0 [] cs

/-- The written form of a character in text between tags. -/
def escapeChar : Char → List Char
  | '&' => "&amp;".toList
  | '<' => "&lt;".toList
  | '>' => "&gt;".toList
  | c => [c]

/-- The written form of a text between tags. -/
def escape (cs : List Char) : List Char :=
  cs.flatMap escapeChar

end Newsstand.Xml
