import Newsstand.Text.Utf8

/-!
# Percent-encoding

An octet is written as a percent sign and two hexadecimal digits. Writing encodes the octets of the
characters that a given set picks out; reading decodes every complete triple and keeps all else.
-/

namespace Newsstand.Text.Percent

/-- The value of a hexadecimal digit. -/
def hexValue? (c : Char) : Option Nat :=
  if '0' ≤ c ∧ c ≤ '9' then some (c.toNat - 0x30)
  else if 'A' ≤ c ∧ c ≤ 'F' then some (c.toNat - 0x41 + 10)
  else if 'a' ≤ c ∧ c ≤ 'f' then some (c.toNat - 0x61 + 10)
  else none

/-- The hexadecimal digit of a value below sixteen, a capital letter from ten on. -/
def hexDigit (n : Nat) : Char :=
  if n < 10 then Char.ofNat (0x30 + n) else Char.ofNat (0x41 + (n - 10))

/-- The written form of an octet. -/
def encodeOctet (b : UInt8) : List Char :=
  ['%', hexDigit (b.toNat / 16), hexDigit (b.toNat % 16)]

/-- The written form of a character, of which every octet is encoded. -/
def encodeChar (c : Char) : List Char :=
  (Utf8.encode (String.singleton c)).flatMap encodeOctet

/-- The written form of a text; the characters in `set` are encoded, the others stand as they
are. -/
def encode (set : Char → Bool) (cs : List Char) : List Char :=
  cs.flatMap fun c => if set c then encodeChar c else [c]

/-- The octets that a written text stands for, the last one first; `done` holds those read. -/
def octetsFrom (done : List UInt8) : List Char → List UInt8
  | [] => done
  | '%' :: a :: b :: rest =>
    match hexValue? a, hexValue? b with
    | some x, some y => octetsFrom (UInt8.ofNat (x * 16 + y) :: done) rest
    | _, _ => octetsFrom (0x25 :: done) (a :: b :: rest)
  | c :: rest => octetsFrom ((Utf8.encode (String.singleton c)).reverse ++ done) rest

/-- The octets that a written text stands for. -/
def octets (cs : List Char) : List UInt8 :=
  (octetsFrom [] cs).reverse

/-- The text that a written text stands for, if its octets are well-formed. -/
def decode? (cs : List Char) : Option String :=
  Utf8.decode? (octets cs)

end Newsstand.Text.Percent
