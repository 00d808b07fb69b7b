import Newsstand.Feed.Basic
import Newsstand.Xml.Event
import Newsstand.Xml.Reference

/-!
# Scanning a document for items

One pass over the events of a document collects the text of the first `title` element and of every
`item` element's first `title`, `link` and `description`. While such an element is open, a capture
directs text to its slot; captures nest, so that text may go to several slots. Names are compared
with their prefix. The pass also checks what the reader of markup does not: one root element, no
text outside it, every element closed, and a bound on nesting.
-/

namespace Newsstand.Feed

open Newsstand.Text Newsstand.Xml

/-- The deepest level at which an element may open. -/
def maxDepth : Nat := 256

/-- The fields of an item. -/
inductive Field where
  | title
  | link
  | description
  deriving DecidableEq, Repr

/-- The field that an element of an item fills, by its name. -/
def Field.ofName? (name : List Char) : Option Field :=
  if name = "title".toList then some .title
  else if name = "link".toList then some .link
  else if name = "description".toList then some .description
  else none

/-- Where captured text goes. -/
inductive Slot where
  | feedTitle
  | item (field : Field)
  deriving DecidableEq, Repr

/-- An open element whose text is collected, at its nesting level. -/
structure Capture where
  slot : Slot
  depth : Nat
  deriving DecidableEq, Repr

/-- The item whose element is open, with the text of the fields met so far. -/
structure Draft where
  depth : Nat
  title? : Option String
  link? : Option String
  description? : Option String
  deriving DecidableEq, Repr

namespace Draft

/-- A draft of the item that opens at a nesting level. -/
def blank (depth : Nat) : Draft :=
  ⟨depth, none, none, none⟩

/-- The text of a field, if its element has been met. -/
def field? (draft : Draft) : Field → Option String
  | .title => draft.title?
  | .link => draft.link?
  | .description => draft.description?

/-- The draft with the text of one field changed. -/
def modifyField (draft : Draft) (field : Field) (f : Option String → Option String) : Draft :=
  match field with
  | .title => { draft with title? := f draft.title? }
  | .link => { draft with link? := f draft.link? }
  | .description => { draft with description? := f draft.description? }

/-- The text of a finished field: trimmed, and empty if the field was never met. -/
def finishText (text? : Option String) : String :=
  (text?.map trim).getD ""

/-- The finished item. -/
def finish (draft : Draft) : Item :=
  ⟨finishText draft.title?, finishText draft.link?, finishText draft.description?⟩

end Draft

/-- Why a document is no feed. -/
inductive ScanFault where
  | markup (fault : Xml.Fault)
  | noRoot
  | unclosed (count : Nat)
  | unbalancedEnd
  | trailingElement
  | strayText
  | tooDeep (limit : Nat)
  deriving DecidableEq, Repr

/-- The wording of a fault. -/
def ScanFault.message : ScanFault → String
  | .markup fault => s!"XML error: {fault.message}"
  | .noRoot => "document has no root element"
  | .unclosed count => s!"document ended with {count} unclosed element(s)"
  | .unbalancedEnd => "unexpected closing tag"
  | .trailingElement => "content after the root element"
  | .strayText => "text outside the root element"
  | .tooDeep limit => s!"nesting deeper than {limit} levels"

/-- What the pass knows after some events: the number of open elements, whether the root element is
closed, the root's local name, the feed's title, the finished items, the open item and the open
captures. -/
structure Scan where
  depth : Nat
  rootClosed : Bool
  root? : Option (List Char)
  title? : Option String
  items : Array Item
  draft? : Option Draft
  captures : List Capture
  deriving DecidableEq, Repr

namespace Scan

/-- The state before the first event. -/
def start : Scan :=
  ⟨0, false, none, none, #[], none, []⟩

/-- Notes the local name of the root element. -/
def noteRoot (scan : Scan) (tag : Tag) : Scan :=
  match scan.root? with
  | none => { scan with root? := some tag.localName }
  | some _ => scan

/-- Starts to collect the feed's title at its first element. -/
def captureTitle (scan : Scan) (tag : Tag) (depth : Nat) : Scan :=
  if tag.name = "title".toList ∧ scan.title? = none then
    { scan with title? := some "", captures := scan.captures ++ [⟨.feedTitle, depth⟩] }
  else scan

/-- Starts an item, or the collection of a field at its first element in the open item. -/
def captureItem (scan : Scan) (tag : Tag) (depth : Nat) : Scan :=
  if tag.name = "item".toList then
    match scan.draft? with
    | none => { scan with draft? := some (Draft.blank depth) }
    | some _ => scan
  else
    match scan.draft?, Field.ofName? tag.name with
    | some draft, some field =>
      if draft.field? field = none then
        { scan with
          draft? := some (draft.modifyField field fun _ => some "")
          captures := scan.captures ++ [⟨.item field, depth⟩] }
      else scan
    | _, _ => scan

/-- Takes note of an element that opens at a nesting level. -/
def openElement (scan : Scan) (tag : Tag) (depth : Nat) : Scan :=
  ((scan.noteRoot tag).captureTitle tag depth).captureItem tag depth

/-- Ends the captures and the item of the element that closes at a nesting level. -/
def closeElement (scan : Scan) (depth : Nat) : Scan :=
  let scan := { scan with captures := scan.captures.filter (·.depth != depth) }
  match scan.draft? with
  | some draft =>
    if draft.depth = depth then
      { scan with draft? := none, items := scan.items.push draft.finish }
    else scan
  | none => scan

/-- Appends text to one slot. -/
def appendTo (scan : Scan) (text : String) : Slot → Scan
  | .feedTitle => { scan with title? := scan.title?.map (· ++ text) }
  | .item field =>
    { scan with draft? := scan.draft?.map (·.modifyField field (·.map (· ++ text))) }

/-- Appends text to the slots of all open captures. -/
def appendText (scan : Scan) (text : String) : Scan :=
  scan.captures.foldl (fun scan capture => scan.appendTo text capture.slot) scan

/-- The state after one more element has ended, at the level `scan.depth`. -/
def leave (scan : Scan) : Scan :=
  { scan with depth := scan.depth - 1, rootClosed := scan.rootClosed || scan.depth == 1 }

/-- The state after one more event. -/
def step (scan : Scan) : Event → Except ScanFault Scan
  | .opened tag =>
    if scan.rootClosed then .error .trailingElement
    else if maxDepth < scan.depth + 1 then .error (.tooDeep maxDepth)
    else .ok { scan.openElement tag (scan.depth + 1) with depth := scan.depth + 1 }
  | .single tag =>
    if scan.rootClosed then .error .trailingElement
    else
      let scan := (scan.openElement tag (scan.depth + 1)).closeElement (scan.depth + 1)
      .ok { scan with rootClosed := scan.rootClosed || scan.depth == 0 }
  | .closed _ =>
    if scan.depth = 0 then .error .unbalancedEnd else .ok (scan.closeElement scan.depth).leave
  | .text raw =>
    match resolve raw with
    | .error fault => .error (.markup (.reference fault))
    | .ok text =>
      if scan.depth = 0 then
        if text.all isBlank then .ok scan else .error .strayText
      else .ok (scan.appendText (String.ofList text))
  | .cdata body =>
    if scan.depth = 0 then .error .strayText
    else .ok (scan.appendText (String.ofList body))
  | .doctype _ => .ok scan
  | .comment => .ok scan
  | .instruction _ => .ok scan

/-- The state after a list of events, or the first fault. -/
def run (scan : Scan) : List Event → Except ScanFault Scan
  | [] => .ok scan
  | event :: events =>
    match scan.step event with
    | .error fault => .error fault
    | .ok scan => scan.run events

end Scan

/-- What a whole document yields: the root's local name, the title if there is one, the items. -/
structure Scanned where
  root : List Char
  title? : Option String
  items : List Item
  deriving DecidableEq, Repr

/-- The yield of the state behind the last event. -/
def Scan.finish (scan : Scan) : Except ScanFault Scanned :=
  if scan.depth ≠ 0 then .error (.unclosed scan.depth)
  else
    match scan.root? with
    | none => .error .noRoot
    | some root => .ok ⟨root, scan.title?.map trim, scan.items.toList⟩

/-- The yield of a transcript; a fault of the events read before the reader's own fault comes
first. -/
def scanTranscript (transcript : Transcript) : Except ScanFault Scanned :=
  match Scan.start.run transcript.events with
  | .error fault => .error fault
  | .ok scan =>
    match transcript.fault with
    | some fault => .error (.markup fault)
    | none => scan.finish

/-- The yield of a document. -/
def scanDocument (cs : List Char) : Except ScanFault Scanned :=
  scanTranscript (Xml.read cs)

end Newsstand.Feed
