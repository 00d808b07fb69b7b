/-!
# Character sets

A character set gives a meaning to octets. It goes by labels, and reads octets as a text unless one
of them stands for nothing. Most sets are read one character after another.
-/

namespace Newsstand.Text

/-- A character set: its name, the labels that documents call it by, and its reading of octets. -/
structure Charset where
  name : String
  labels : List String
  decode? : List UInt8 → Option (List Char)

/-- A reading of one character: what the first octet, with those behind it, stands for, and how many
of those belong to it. -/
abbrev OctetReading := UInt8 → List UInt8 → Option (List Char × Nat)

/-- Reads octets one character after another; `done` is what has been read, the last character
first. -/
def decodeEach (first? : OctetReading) (done : List Char) : List UInt8 → Option (List Char)
  | [] => some done.reverse
  | b :: rest =>
    match first? b rest with
    | none => none
    | some (cs, more) => decodeEach first? (cs.reverse ++ done) (rest.drop more)
termination_by octets => octets.length
decreasing_by
  simp only [List.length_drop, List.length_cons]
  omega

/-- Whether an octet lies in a range. -/
def between (low high : UInt8) (b : UInt8) : Bool :=
  low ≤ b && b ≤ high

/-- The distance of an octet from a lower one. -/
def distance (b low : UInt8) : Nat :=
  b.toNat - low.toNat

/-- A reading that takes octets of ASCII for themselves. -/
def withAscii (first? : OctetReading) : OctetReading :=
  fun b rest => if b < 0x80 then some ([Char.ofNat b.toNat], 0) else first? b rest

/-- A reading of characters of two octets, each of which has a place. -/
def pairReading (char? : UInt8 → UInt8 → Option (List Char)) : OctetReading := fun lead rest =>
  match rest with
  | [] => none
  | trail :: _ => (char? lead trail).map fun cs => (cs, 1)

end Newsstand.Text
