import Newsstand.Xml.Event
import Newsstand.Xml.Reference

/-!
# Documents as trees

The elements and texts of a document, nested as their tags are. Character data sections are text
like any other; comments, instructions and declarations leave no trace. Text whose references cannot
be resolved stands as it is written. Where the octets of a piece stand for nothing in the character
set of the document, the tree has a node that says so.
-/

namespace Newsstand.Xml

/-- A text, an element with what stands between its tags, or a piece that cannot be read in the
character set of that name. -/
inductive Node where
  | text (cs : List Char)
  | element (tag : Tag) (children : List Node)
  | unreadable (charset : String)

/-- An event, or the name of the character set in which it cannot be read. -/
abbrev DecodedEvent := Except String Event

/-- A tree under construction: the open elements, the innermost first, each with the nodes that
stand before it; and the nodes of the innermost. All nodes have the last one first. -/
structure Nesting where
  outer : List (Tag × List Node)
  nodes : List Node

namespace Nesting

/-- The state before the first event. -/
def start : Nesting :=
  ⟨[], []⟩

/-- The state with one more node. -/
def add (nesting : Nesting) (node : Node) : Nesting :=
  { nesting with nodes := node :: nesting.nodes }

/-- The state behind one more event; an end tag that closes nothing is passed over. -/
def step (nesting : Nesting) : Event → Nesting
  | .opened tag => ⟨(tag, nesting.nodes) :: nesting.outer, []⟩
  | .single tag => nesting.add (.element tag [])
  | .closed _ =>
    match nesting.outer with
    | [] => nesting
    | (tag, before) :: outer => ⟨outer, .element tag nesting.nodes.reverse :: before⟩
  | .text raw =>
    match resolve raw with
    | .ok cs => nesting.add (.text cs)
    | .error _ => nesting.add (.text raw)
  | .cdata body => nesting.add (.text body)
  | _ => nesting

/-- The state behind one more event that may be unreadable. -/
def stepDecoded (nesting : Nesting) : DecodedEvent → Nesting
  | .ok event => nesting.step event
  | .error charset => nesting.add (.unreadable charset)

/-- The nodes at the top, where every element that is still open ends. -/
def close (nodes : List Node) : List (Tag × List Node) → List Node
  | [] => nodes.reverse
  | (tag, before) :: outer => close (.element tag nodes.reverse :: before) outer

end Nesting

/-- The nodes at the top of a document. -/
def Node.ofEvents (events : List DecodedEvent) : List Node :=
  let nesting := events.foldl Nesting.stepDecoded Nesting.start
  Nesting.close nesting.nodes nesting.outer

end Newsstand.Xml
