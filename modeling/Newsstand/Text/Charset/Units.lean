import Newsstand.Text.Charset.Basic

/-!
# Character sets of units of two octets

Text in units of sixteen bits, in which a character beyond the basic plane takes two units.
-/

namespace Newsstand.Text

/-- Which octet of a unit comes first. -/
inductive ByteOrder where
  | low
  | high
  deriving DecidableEq, Repr

/-- The unit of two octets. -/
def ByteOrder.unit (order : ByteOrder) (a b : UInt8) : Nat :=
  match order with
  | .low => b.toNat * 256 + a.toNat
  | .high => a.toNat * 256 + b.toNat

/-- The character of two units, if they are the two halves of one. -/
def pairedChar? (high low : Nat) : Option Char :=
  if 0xD800 ≤ high ∧ high < 0xDC00 ∧ 0xDC00 ≤ low ∧ low < 0xE000 then
    some (Char.ofNat (0x10000 + (high - 0xD800) * 0x400 + (low - 0xDC00)))
  else none

/-- Reads the character that starts with an octet. -/
def unitReading (order : ByteOrder) : OctetReading := fun a rest =>
  match rest with
  | [] => none
  | b :: rest =>
    let unit := order.unit a b
    if unit.isValidChar then some ([Char.ofNat unit], 1)
    else
      match rest with
      | c :: d :: _ => (pairedChar? unit (order.unit c d)).map fun char => ([char], 3)
      | _ => none

/-- The sets of units. -/
def unitCharsets : List Charset := [
  { name := "UTF-16BE"
    labels := ["unicodefffe", "utf-16be"]
    decode? := decodeEach (unitReading .high) [] },
  { name := "UTF-16LE"
    labels := [
      "csunicode", "iso-10646-ucs-2", "ucs-2", "unicode", "unicodefeff", "utf-16", "utf-16le"]
    decode? := decodeEach (unitReading .low) [] }]

end Newsstand.Text
