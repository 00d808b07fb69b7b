import Newsstand.Xml.Event

/-!
# The attributes of a tag

A tag's attributes are read from left to right, each as a key, an equals sign and a quoted value.
Reading goes on behind a malformed attribute, so that it spoils no other: `Tag.attributes` gives
every attribute and every fault in order. Positions count octets from the start of the tag's
content.
-/

namespace Newsstand.Xml

open Newsstand.Text

/-- A key and its value as written, references unresolved. -/
structure Attribute where
  key : List Char
  value : List Char
  deriving DecidableEq, Repr

/-- What is wrong with an attribute, and where. -/
inductive AttributeFault where
  | missingEquals (position : Nat)
  | missingValue (position : Nat)
  | unquotedValue (position : Nat)
  | unclosedQuote (position : Nat) (quote : Char)
  | duplicate (position previous : Nat)
  deriving DecidableEq, Repr

/-- The wording of an attribute's fault. -/
def AttributeFault.message : AttributeFault → String
  | .missingEquals p => s!"position {p}: attribute key must be directly followed by `=` or space"
  | .missingValue p => s!"position {p}: `=` must be followed by an attribute value"
  | .unquotedValue p => s!"position {p}: attribute value must be enclosed in `\"` or `'`"
  | .unclosedQuote p q => s!"position {p}: missing closing quote `{q}` in attribute value"
  | .duplicate p previous =>
    s!"position {p}: duplicated attribute, previous declaration at position {previous}"

/-- An attribute or its fault. -/
abbrev AttributeResult := Except AttributeFault Attribute

/-- Whether a character behind a key's first one belongs to the key. -/
def inKey (c : Char) : Bool :=
  c != '=' && !isSpace c

/-- The text from its first space on, where reading resumes behind a malformed value. -/
def fromSpace (cs : List Char) : List Char :=
  cs.dropWhile (!isSpace ·)

/-- Reads the value behind an equals sign in a content of `total` octets; also gives the text at
which to go on. -/
def readValue (total : Nat) (key cs : List Char) : AttributeResult × List Char :=
  match cs.dropWhile isSpace with
  | [] => (.error (.missingValue total), [])
  | q :: body =>
    if q = '"' ∨ q = '\'' then
      match body.dropWhile (· != q) with
      | _ :: rest => (.ok ⟨key, body.takeWhile (· != q)⟩, rest)
      | [] => (.error (.unclosedQuote total q), [])
    else (.error (.unquotedValue (total - byteLength (q :: body))), fromSpace (q :: body))

/-- The keys met so far, each with its position. -/
abbrev KeysSeen := List (List Char × Nat)

/-- Reads the attribute that starts with `c` in a content of `total` octets; also gives the keys met
and the text at which to go on. A key counts as met before its value is read. -/
def readAttribute (total : Nat) (seen : KeysSeen) (c : Char) (cs : List Char) :
    AttributeResult × KeysSeen × List Char :=
  let start := total - byteLength (c :: cs)
  let key := c :: cs.takeWhile inKey
  match (cs.dropWhile inKey).dropWhile isSpace with
  | [] => (.error (.missingEquals total), seen, [])
  | d :: rest =>
    if d = '=' then
      match seen.lookup key with
      | some previous => (.error (.duplicate start previous), seen, fromSpace rest)
      | none =>
        let (result, rest) := readValue total key rest
        (result, (key, start) :: seen, rest)
    else (.error (.missingEquals (total - byteLength (d :: rest))), seen, d :: rest)

theorem readValue_length (total : Nat) (key cs : List Char) :
    (readValue total key cs).2.length ≤ cs.length := by
  unfold readValue
  have hcs := length_dropWhile_le isSpace cs
  split
  · simp
  · next q body hbody =>
    rw [hbody, List.length_cons] at hcs
    split
    · split
      · next hrest =>
        have := length_dropWhile_le (· != q) body
        rw [hrest, List.length_cons] at this
        simp only
        omega
      · simp
    · have := length_dropWhile_le (!isSpace ·) (q :: body)
      rw [List.length_cons] at this
      simp only [fromSpace]
      omega

theorem readAttribute_length (total : Nat) (seen : KeysSeen) (c : Char) (cs : List Char) :
    (readAttribute total seen c cs).2.2.length ≤ cs.length := by
  unfold readAttribute
  have hkey := length_dropWhile_le inKey cs
  have hcs := length_dropWhile_le isSpace (cs.dropWhile inKey)
  simp only
  split
  · simp
  · next d rest hrest =>
    rw [hrest, List.length_cons] at hcs
    split
    · split
      · have := length_dropWhile_le (!isSpace ·) rest
        simp only [fromSpace]
        omega
      · have := readValue_length total (c :: cs.takeWhile inKey) rest
        simp only
        omega
    · simp only [List.length_cons]
      omega

/-- The attributes and faults in what is left of a content of `total` octets. -/
def readAttributes (total : Nat) (seen : KeysSeen) (cs : List Char) : List AttributeResult :=
  match _h : cs.dropWhile isSpace with
  | [] => []
  | c :: cs' =>
    (readAttribute total seen c cs').1
      :: readAttributes total (readAttribute total seen c cs').2.1
        (readAttribute total seen c cs').2.2
termination_by cs.length
decreasing_by
  have hcs := length_dropWhile_le isSpace cs
  rw [_h, List.length_cons] at hcs
  have := readAttribute_length total seen c cs'
  omega

/-- The attributes and faults of a tag, in order. -/
def Tag.attributes (tag : Tag) : List AttributeResult :=
  readAttributes (byteLength tag.content) [] tag.attributeText

end Newsstand.Xml
