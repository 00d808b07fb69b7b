import Newsstand.Text.Blank

/-!
# Text in octets

UTF-8 read from octets, in two ways. `decode?` accepts exactly well-formed text. `decodeLossy` reads
any octets: every maximal part that begins a character without completing it, and every octet that
begins none, becomes one replacement character. Both are built on `readScalar`, which takes one
character or one such part off the front.
-/

namespace Newsstand.Text.Utf8

/-- What the first octet of a character of several octets says: the number of octets behind it,
its share of the code point, and the range of the octet that may follow it. -/
structure Lead where
  following : Nat
  bits : Nat
  low : UInt8
  high : UInt8
  deriving Repr

/-- Reads the first octet of a character of several octets. The range of the second octet keeps out
overlong forms, surrogates and code points that are too large. -/
def lead? (b : UInt8) : Option Lead :=
  if b < 0xC2 then none
  else if b < 0xE0 then some ⟨1, b.toNat - 0xC0, 0x80, 0xBF⟩
  else if b < 0xF0 then
    some ⟨2, b.toNat - 0xE0, if b = 0xE0 then 0xA0 else 0x80, if b = 0xED then 0x9F else 0xBF⟩
  else if b < 0xF5 then
    some ⟨3, b.toNat - 0xF0, if b = 0xF0 then 0x90 else 0x80, if b = 0xF4 then 0x8F else 0xBF⟩
  else none

/-- Reads the `count` octets that complete a character; `code` is its code point so far, and the
next octet has to lie between `low` and `high`. -/
def readRest (count : Nat) (low high : UInt8) (code : Nat) (octets : List UInt8) :
    Option Char × List UInt8 :=
  match count, octets with
  | 0, octets => (some (Char.ofNat code), octets)
  | _ + 1, [] => (none, [])
  | count + 1, b :: rest =>
    if low ≤ b ∧ b ≤ high then readRest count 0x80 0xBF (code * 64 + (b.toNat - 0x80)) rest
    else (none, b :: rest)

/-- Takes one character off the octets `b :: rest`, or none for a maximal part that is not one. -/
def readScalar (b : UInt8) (rest : List UInt8) : Option Char × List UInt8 :=
  if b < 0x80 then (some (Char.ofNat b.toNat), rest)
  else
    match lead? b with
    | none => (none, rest)
    | some lead => readRest lead.following lead.low lead.high lead.bits rest

theorem readRest_length (count : Nat) (low high : UInt8) (code : Nat) (octets : List UInt8) :
    (readRest count low high code octets).2.length ≤ octets.length := by
  induction octets generalizing count low high code with
  | nil => cases count <;> simp [readRest]
  | cons b rest ih =>
    cases count with
    | zero => simp [readRest]
    | succ count =>
      simp only [readRest]
      split
      · exact Nat.le_succ_of_le (ih ..)
      · simp

theorem readScalar_length (b : UInt8) (rest : List UInt8) :
    (readScalar b rest).2.length ≤ rest.length := by
  unfold readScalar
  split
  · simp
  · split
    · simp
    · exact readRest_length ..

/-- The characters of the octets, the last one first, with none for each part that is not one;
`done` holds what is read already. -/
def scalarsFrom (done : List (Option Char)) (octets : List UInt8) : List (Option Char) :=
  match octets with
  | [] => done
  | b :: rest =>
    have := readScalar_length b rest
    scalarsFrom ((readScalar b rest).1 :: done) (readScalar b rest).2
termination_by octets.length
decreasing_by simp only [List.length_cons]; omega

/-- The characters of the octets in order, with none for each part that is not one. -/
def scalars (octets : List UInt8) : List (Option Char) :=
  (scalarsFrom [] octets).reverse

/-- The text of any octets, with a replacement character for each part that is not a character. -/
def decodeLossy (octets : List UInt8) : String :=
  String.ofList ((scalars octets).map (·.getD '\uFFFD'))

/-- The text of the octets, if they are well-formed. -/
def decode? (octets : List UInt8) : Option String :=
  let read := scalars octets
  if read.all Option.isSome then some (String.ofList (read.filterMap id)) else none

/-- Where octets stop being text: the number of octets before, and the number of those that are no
character; none if a character is cut off by the end. -/
structure Breach where
  index : Nat
  length? : Option Nat
  deriving DecidableEq, Repr

/-- The first place, counted from `index` on, where octets stop being text. -/
def breachFrom? (index : Nat) (octets : List UInt8) : Option Breach :=
  match octets with
  | [] => none
  | b :: rest =>
    have := readScalar_length b rest
    let taken := 1 + (rest.length - (readScalar b rest).2.length)
    if (readScalar b rest).1.isSome then breachFrom? (index + taken) (readScalar b rest).2
    else
      let cutOff := (lead? b).isSome && (readScalar b rest).2.isEmpty
      some ⟨index, if cutOff then none else some taken⟩
termination_by octets.length
decreasing_by simp only [List.length_cons]; omega

/-- The octets of a text. -/
def encode (s : String) : List UInt8 :=
  s.toUTF8.toList

end Newsstand.Text.Utf8
