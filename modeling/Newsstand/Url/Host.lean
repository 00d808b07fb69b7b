import Newsstand.Text.Percent
import Newsstand.Url.Idna
import Newsstand.Url.Fault

/-!
# Hosts

A host is a name, an IPv4 address or an IPv6 address. A name whose last label is a number has to be
an IPv4 address, and what stands in brackets an IPv6 address; each address has one written form.
-/

namespace Newsstand

open Newsstand.Text

/-- The host of a URL. -/
inductive Host where
  | name (text : String)
  | ipv4 (address : Nat)
  | ipv6 (pieces : List Nat)
  deriving DecidableEq, Repr

namespace Host

/-! ### IPv4 addresses -/

/-- The number that a part of an address writes: in base sixteen behind `0x`, in base eight behind
another leading zero, else in base ten. -/
def partNumber? (part : List Char) : Option Nat :=
  let read (base : Nat) (digits : List Char) : Option Nat :=
    digits.foldl (fun n? c => do
      let n ← n?
      let d ← Percent.hexValue? c
      if d < base then some (n * base + d) else none) (some 0)
  match part with
  | [] => none
  | '0' :: 'x' :: digits => read 16 digits
  | '0' :: 'X' :: digits => read 16 digits
  | '0' :: d :: digits => read 8 (d :: digits)
  | digits => read 10 digits

/-- The parts of a name between its dots, without the empty one behind a final dot. -/
def nameParts (name : List Char) : List (List Char) :=
  let parts := splitAtChar '.' name
  if parts.getLast? = some [] then parts.dropLast else parts

/-- Whether a name's last part is a number, so that the name has to be an address. -/
def endsInNumber (name : List Char) : Bool :=
  match (nameParts name).getLast? with
  | none => false
  | some [] => false
  | some last => last.all Char.isDigit || (partNumber? last).isSome

/-- The address that a list of numbers writes: the last one fills all octets that are left. -/
def ipv4OfNumbers? (numbers : List Nat) : Option Nat :=
  match numbers.getLast? with
  | none => none
  | some last =>
    let leading := numbers.dropLast
    if leading.any (255 < ·) then none
    else if Nat.pow 256 (4 - leading.length) ≤ last then none
    else some (leading.zipIdx.foldl (fun n (d, i) => n + d * Nat.pow 256 (3 - i)) last)

/-- The address that a name writes. -/
def readIpv4? (name : List Char) : Option Nat :=
  let parts := nameParts name
  if 4 < parts.length then none
  else
    match parts.mapM partNumber? with
    | none => none
    | some numbers => ipv4OfNumbers? numbers

/-- The written form of an IPv4 address. -/
def ipv4Text (n : Nat) : String :=
  s!"{n / Nat.pow 256 3}.{n / Nat.pow 256 2 % 256}.{n / 256 % 256}.{n % 256}"

/-! ### IPv6 addresses -/

/-- The value of up to four hexadecimal digits. -/
def readPiece? (digits : List Char) : Option Nat :=
  if digits = [] ∨ 4 < digits.length then none
  else
    digits.foldl (fun n? c => do
      let n ← n?
      let d ← Percent.hexValue? c
      pure (n * 16 + d)) (some 0)

/-- The value of a decimal octet without idle zeros. -/
def readOctet? (digits : List Char) : Option Nat :=
  if digits = [] ∨ 3 < digits.length ∨ !digits.all Char.isDigit then none
  else if digits.head? = some '0' ∧ digits.length ≠ 1 then none
  else
    let n := digits.foldl (fun n c => n * 10 + (c.toNat - 0x30)) 0
    if n < 256 then some n else none

/-- The pieces that the parts between colons write; the last part may be an IPv4 address, which
makes two pieces. -/
def readPieces? : List (List Char) → Option (List Nat)
  | [] => some []
  | [last] =>
    if last.contains '.' then
      match (splitAtChar '.' last).mapM readOctet? with
      | some [a, b, c, d] => some [a * 256 + b, c * 256 + d]
      | _ => none
    else (readPiece? last).map ([·])
  | part :: parts => do
    let piece ← readPiece? part
    let pieces ← readPieces? parts
    pure (piece :: pieces)

/-- The pieces on one side of a double colon; that side may be empty. -/
def readSide? (cs : List Char) : Option (List Nat) :=
  if cs = [] then some [] else readPieces? (splitAtChar ':' cs)

/-- Splits at the first double colon. -/
def splitDoubleColon (done : List Char) : List Char → Option (List Char × List Char)
  | ':' :: ':' :: rest => some (done.reverse, rest)
  | c :: rest => splitDoubleColon (c :: done) rest
  | [] => none

/-- The eight pieces of the address that stands in brackets. A double colon stands for as many
zeros as are missing; in front of it no IPv4 address may stand. -/
def readIpv6? (cs : List Char) : Option (List Nat) :=
  match splitDoubleColon [] cs with
  | none => (readPieces? (splitAtChar ':' cs)).filter (·.length == 8)
  | some (left, right) =>
    if left.contains '.' then none
    else
      match readSide? left, readSide? right with
      | some before, some after =>
        if before.length + after.length < 8 then
          some (before ++ List.replicate (8 - before.length - after.length) 0 ++ after)
        else none
      | _, _ => none

/-- The number of zeros at the front of a list. -/
def leadingZeros (pieces : List Nat) : Nat :=
  (pieces.takeWhile (· == 0)).length

/-- The place and length of the first longest run of zeros; `place` counts the pieces passed. -/
def longestZeros (place : Nat) : List Nat → Nat × Nat
  | [] => (0, 0)
  | piece :: pieces =>
    let (at_, length) := longestZeros (place + 1) pieces
    let here := leadingZeros (piece :: pieces)
    if length ≤ here then (place, here) else (at_, length)

/-- The hexadecimal text of a piece, in small letters. -/
def pieceText (n : Nat) : String :=
  String.ofList (Nat.toDigits 16 n)

/-- The written form of an IPv6 address: the first longest run of at least two zeros is left
out. -/
def ipv6Text (pieces : List Nat) : String :=
  let (place, length) := longestZeros 0 pieces
  let join (l : List Nat) : String := ":".intercalate (l.map pieceText)
  if length < 2 then join pieces
  else join (pieces.take place) ++ "::" ++ join (pieces.drop (place + length))

/-! ### Hosts of URLs -/

/-- The written form of a host. -/
def text : Host → String
  | .name text => text
  | .ipv4 address => ipv4Text address
  | .ipv6 pieces => "[" ++ ipv6Text pieces ++ "]"

/-- Reads what stands in brackets; `cs` starts with the opening one. -/
def readBracketed (cs : List Char) : Except UrlFault Host :=
  if cs.getLast? = some ']' then
    match readIpv6? (cs.drop 1).dropLast with
    | some pieces => .ok (.ipv6 pieces)
    | none => .error .invalidIpv6
  else .error .invalidIpv6

/-- Reads the host of a URL whose scheme knows host names. -/
def read (cs : List Char) : Except UrlFault Host :=
  if cs.head? = some '[' then readBracketed cs
  else
    match (Percent.decode? cs).bind fun s => Idna.toAscii? s.toList with
    | none => .error .invalidName
    | some [] => .error .emptyHost
    | some ascii =>
      if endsInNumber ascii then
        match readIpv4? ascii with
        | some address => .ok (.ipv4 address)
        | none => .error .invalidIpv4
      else .ok (.name (String.ofList ascii))

/-- The characters that no uninterpreted host may hold. -/
def isForbidden (c : Char) : Bool :=
  "\x00\t\n\r #/:<>?@[\\]^|".toList.contains c

/-- Whether a character is a control character or beyond ASCII. -/
def isControl (c : Char) : Bool :=
  c.toNat < 0x20 || 0x7F ≤ c.toNat

/-- Reads the host of a URL whose scheme has no host names of its own. -/
def readPlain (cs : List Char) : Except UrlFault Host :=
  if cs.head? = some '[' then readBracketed cs
  else if cs.any isForbidden then .error .invalidCharacter
  else .ok (.name (String.ofList (Percent.encode isControl cs)))

end Host

end Newsstand
