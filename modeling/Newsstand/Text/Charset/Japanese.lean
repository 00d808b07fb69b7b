import Newsstand.Text.Charset.Basic
import Newsstand.Text.Charset.JisTables

/-!
# Japanese character sets

Three ways to write the Japanese grids in octets. Two of them tell characters of one octet from
those of more by the first octet; the third one keeps to seven bits and switches between sets by
escape sequences.
-/

namespace Newsstand.Text

/-- The half-width form that is numbered from the one with code point `U+FF61`. -/
def halfWidth (n : Nat) : Char :=
  Char.ofNat (0xFF61 + n)

/-- The character of a row and a column of the first grid; behind the grid are places for private
use. -/
def shiftedChar? (place : Nat) : Option Char :=
  if 8836 ≤ place ∧ place ≤ 10715 then some (Char.ofNat (0xE000 + (place - 8836)))
  else jis208.at? place

/-- The character of two octets, of which the first one counts pairs of rows. -/
def shiftJisPair? (lead trail : UInt8) : Option (List Char) :=
  let row := if lead < 0xA0 then distance lead 0x81 else distance lead 0xC1
  if between 0x40 0x7E trail then
    (shiftedChar? (row * 188 + distance trail 0x40)).map ([·])
  else if between 0x80 0xFC trail then
    (shiftedChar? (row * 188 + distance trail 0x41)).map ([·])
  else none

/-- Reads one character beyond ASCII. -/
def shiftJisReading : OctetReading := fun b rest =>
  if b = 0x80 then some (['\u0080'], 0)
  else if between 0xA1 0xDF b then some ([halfWidth (distance b 0xA1)], 0)
  else if between 0x81 0x9F b || between 0xE0 0xFC b then pairReading shiftJisPair? b rest
  else none

/-- The set whose characters of two octets leave room for the half-width forms. -/
def shiftJis : Charset where
  name := "Shift_JIS"
  labels := [
    "csshiftjis", "ms932", "ms_kanji", "shift-jis", "shift_jis", "sjis", "windows-31j", "x-sjis"]
  decode? := decodeEach (withAscii shiftJisReading) []

/-- The character of two octets from the upper half of a grid. -/
def upperPair? (grid : Grid) (lead trail : UInt8) : Option (List Char) :=
  if between 0xA1 0xFE lead && between 0xA1 0xFE trail then
    (grid.at? (distance lead 0xA1 * 94 + distance trail 0xA1)).map ([·])
  else none

/-- Reads one character beyond ASCII. Two octets switch the set for the next character alone. -/
def eucJpReading : OctetReading := fun b rest =>
  if b = 0x8E then
    match rest with
    | c :: _ => if between 0xA1 0xDF c then some ([halfWidth (distance c 0xA1)], 1) else none
    | [] => none
  else if b = 0x8F then
    match rest with
    | lead :: trail :: _ => (upperPair? jis212 lead trail).map fun cs => (cs, 2)
    | _ => none
  else pairReading (upperPair? jis208) b rest

/-- The set of both grids in the upper half of octets. -/
def eucJp : Charset where
  name := "EUC-JP"
  labels := ["cseucpkdfmtjapanese", "euc-jp", "x-euc-jp"]
  decode? := decodeEach (withAscii eucJpReading) []

/-! ### Seven bits -/

/-- The sets between which escape sequences switch. -/
inductive EscapedSet where
  | ascii
  | roman
  | katakana
  | grid
  deriving DecidableEq, Repr

/-- The set that an escape sequence switches to, by the two octets behind the escape. -/
def EscapedSet.ofSequence? (b c : UInt8) : Option EscapedSet :=
  if b = 0x28 ∧ c = 0x42 then some .ascii
  else if b = 0x28 ∧ c = 0x4A then some .roman
  else if b = 0x28 ∧ c = 0x49 then some .katakana
  else if b = 0x24 ∧ (c = 0x40 ∨ c = 0x42) then some .grid
  else none

/-- The character of one octet in a set of single octets. -/
def EscapedSet.char? (set : EscapedSet) (b : UInt8) : Option Char :=
  match set with
  | .katakana => if between 0x21 0x5F b then some (halfWidth (distance b 0x21)) else none
  | .grid => none
  | set =>
    if 0x80 ≤ b ∨ b = 0x0E ∨ b = 0x0F ∨ b = 0x1B then none
    else if set = .roman ∧ b = 0x5C then some '¥'
    else if set = .roman ∧ b = 0x7E then some '‾'
    else some (Char.ofNat b.toNat)

/-- Reads octets in a set up to their end. `idle` says that the last sequence has not yet been used,
in which case another one is not allowed; `done` is what has been read, the last character first. -/
def decodeEscaped (set : EscapedSet) (idle : Bool) (done : List Char) :
    List UInt8 → Option (List Char)
  | [] => some done.reverse
  | [b] => (set.char? b).map fun c => (c :: done).reverse
  | b :: c :: rest =>
    if b = 0x1B then
      match rest with
      | d :: rest =>
        match EscapedSet.ofSequence? c d with
        | some set => if idle then none else decodeEscaped set true done rest
        | none => none
      | [] => none
    else if set = .grid then
      if between 0x21 0x7E b && between 0x21 0x7E c then
        match jis208.at? (distance b 0x21 * 94 + distance c 0x21) with
        | some c => decodeEscaped set false (c :: done) rest
        | none => none
      else none
    else
      match set.char? b with
      | some d => decodeEscaped set false (d :: done) (c :: rest)
      | none => none

/-- The set that switches between sets by escape sequences. -/
def iso2022Jp : Charset where
  name := "ISO-2022-JP"
  labels := ["csiso2022jp", "iso-2022-jp"]
  decode? := decodeEscaped .ascii false []

/-- The Japanese sets. -/
def japaneseCharsets : List Charset :=
  [eucJp, iso2022Jp, shiftJis]

end Newsstand.Text
