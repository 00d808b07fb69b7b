import Newsstand.Text.Charset
import Newsstand.Xml.Attribute
import Newsstand.Xml.Tree

/-!
# The declared character set

A document is taken for octets. Those behind a declaration are read in the set that it declares; the
first declaration that names a known set counts. Each event is read on its own, and one whose octets
stand for nothing in the set is given as unreadable.
-/

namespace Newsstand.Atom

open Newsstand.Text Newsstand.Xml

/-- The value of the first attribute called `encoding` as it is written; none behind a malformed
attribute. -/
def encodingLabel? : List AttributeResult → Option (List Char)
  | [] => none
  | .ok entry :: rest =>
    if entry.key = "encoding".toList then some entry.value else encodingLabel? rest
  | .error (.duplicate ..) :: rest => encodingLabel? rest
  | .error _ :: _ => none

/-- The known character set that an event declares, if it is a declaration. -/
def declaredCharset? : Event → Option Charset
  | .instruction content =>
    if content.take 3 = "xml".toList ∧ ((content.drop 3).head?.all isSpace) = true then
      (encodingLabel? (Tag.attributes ⟨content⟩)).bind fun label =>
        Charset.ofLabel? (String.ofList label)
    else none
  | _ => none

/-- A text whose octets are read in another set. -/
def recode (set : Charset) (cs : List Char) : Except String (List Char) :=
  match set.decode? (Utf8.encode (String.ofList cs)) with
  | some text => .ok text
  | none => .error set.name

/-- An event whose octets are read in another set. -/
def recodeEvent (set : Charset) : Event → DecodedEvent
  | .opened tag => (recode set tag.content).map fun content => .opened ⟨content⟩
  | .single tag => (recode set tag.content).map fun content => .single ⟨content⟩
  | .closed name => (recode set name).map .closed
  | .text raw => (recode set raw).map .text
  | .cdata body => (recode set body).map .cdata
  | event => .ok event

/-- Events as they read in the declared set. -/
def recodeEvents : List Event → List DecodedEvent
  | [] => []
  | event :: events =>
    match declaredCharset? event with
    | some set => .ok event :: events.map (recodeEvent set)
    | none => .ok event :: recodeEvents events

end Newsstand.Atom
