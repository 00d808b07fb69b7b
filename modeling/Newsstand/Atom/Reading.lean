import Newsstand.Atom.Decoding
import Newsstand.Atom.MediaType
import Newsstand.Atom.Scope
import Newsstand.Feed.Basic

/-!
# Reading Atom

The title of the feed and the title, first link and summary or content of each of its entries. Of an
element that may stand once, the last one counts. Texts are read with the markup inside them, which
is written out anew.
-/

namespace Newsstand.Atom

open Newsstand.Text Newsstand.Xml

/-- What is kept of an Atom document. -/
structure Content where
  title : String
  items : List Item
  deriving DecidableEq, Repr

/-! ### Texts -/

/-- The start tag that is written for an element inside a text. -/
def openingText (tag : Tag) : String :=
  let written (result : AttributeResult) : String :=
    match result with
    | .error _ => ""
    | .ok entry =>
      let value :=
        match resolve entry.value with
        | .ok text => text
        | .error _ => entry.value
      " " ++ String.ofList entry.key ++ "=\"" ++ String.ofList value ++ "\""
  "<" ++ String.ofList tag.localName ++ String.join (tag.attributes.map written) ++ ">"

mutual

/-- Writes a node behind `done`; every element inside is checked for what it declares. -/
def writeNode (scope : Scope) (done : String) : Node → Except Fault String
  | .text cs => .ok (done ++ String.ofList cs)
  | .unreadable charset => .error (.charset charset)
  | .element tag children =>
    match scope.enter tag with
    | .error fault => .error fault
    | .ok scope =>
      match writeNodes scope (done ++ openingText tag) children with
      | .error fault => .error fault
      | .ok done => .ok (done ++ "</" ++ String.ofList tag.localName ++ ">")

/-- Writes nodes behind `done`. -/
def writeNodes (scope : Scope) (done : String) : List Node → Except Fault String
  | [] => .ok done
  | node :: nodes =>
    match writeNode scope done node with
    | .error fault => .error fault
    | .ok done => writeNodes scope done nodes

end

/-- Checks what the elements among nodes declare. -/
def passNodes (scope : Scope) (nodes : List Node) : Except Fault Unit :=
  (writeNodes scope "" nodes).map fun _ => ()

/-- Whether a declared type is one of text. -/
def isTextType (type : String) : Bool :=
  ["text", "html", "xhtml", "text/html"].contains type

/-- The text of an element; none if there is nothing between its tags. -/
def readText (scope : Scope) (tag : Tag) (children : List Node) :
    Except Fault (Option String) :=
  let type := (attribute? tag "type").getD "text"
  if isTextType type then
    (writeNodes scope "" children).map fun text => if text = "" then none else some (trim text)
  else .error (.unsupportedType type)

/-- The text in front of the first element among nodes, if there is any. -/
def leadingText? (nodes : List Node) : Option String :=
  let leading := nodes.map fun
    | .text cs => some cs
    | _ => none
  match leading.takeWhile Option.isSome with
  | [] => none
  | parts => some (String.ofList (parts.filterMap id).flatten)

/-- The text of a content element. Content that is elsewhere has none and must not have any; content
of a type that is not one of text must be a plain text. -/
def readContent (scope : Scope) (tag : Tag) (children : List Node) :
    Except Fault (Option String) := do
  let type? := attribute? tag "type"
  if (attribute? tag "src").isSome then
    match type? with
    | some type => if !MediaType.isMediaType type then throw (.unsupportedType type)
    | none => pure ()
    if (leadingText? children).isSome then
      throw (.missing "non-empty atom:content with src")
    passNodes scope children
    pure none
  else if isTextType (type?.getD "text") then readText scope tag children
  else
    let type := type?.getD ""
    if type.endsWith "/xml" || !MediaType.isMediaType type then
      throw (.unsupportedType type)
    match leadingText? children with
    | none => throw (.missing "content.inline")
    | some text =>
      passNodes scope children
      pure (some text)

/-! ### Media descriptions -/

mutual

/-- Passes an element of the media namespace; its titles and descriptions have to be texts. -/
def passMedia (scope : Scope) : Node → Except Fault Unit
  | .text _ => .ok ()
  | .unreadable charset => .error (.charset charset)
  | .element tag children =>
    match scope.enter tag with
    | .error fault => .error fault
    | .ok inner =>
      let name := String.ofList tag.localName
      if inner.namespaceOf tag ≠ .media then passNodes inner children
      else if name = "title" ∨ name = "description" then
        (readText inner tag children).map fun _ => ()
      else if name = "group" ∨ name = "content" then passMediaNodes inner children
      else passNodes inner children

/-- Passes nodes inside an element of the media namespace. -/
def passMediaNodes (scope : Scope) : List Node → Except Fault Unit
  | [] => .ok ()
  | node :: nodes =>
    match passMedia scope node with
    | .error fault => .error fault
    | .ok () => passMediaNodes scope nodes

end

/-! ### Entries and feeds -/

/-- What is known of an entry. -/
structure Entry where
  title? : Option String
  link? : Option String
  summary? : Option String
  content? : Option String

/-- The item that an entry becomes. -/
def Entry.item (entry : Entry) : Item :=
  ⟨entry.title?.getD "", entry.link?.getD "", (entry.summary?.or entry.content?).getD ""⟩

/-- Takes one child of an entry into account. -/
def Entry.readChild (scope : Scope) (entry : Entry) : Node → Except Fault Entry
  | .text _ => .ok entry
  | .unreadable charset => .error (.charset charset)
  | .element tag children => do
    let inner ← scope.enter tag
    match inner.namespaceOf tag, String.ofList tag.localName with
    | .atom, "title" => return { entry with title? := ← readText inner tag children }
    | .atom, "summary" => return { entry with summary? := ← readText inner tag children }
    | .atom, "content" => return { entry with content? := ← readContent inner tag children }
    | .atom, "rights" =>
      let _ ← readText inner tag children
      return entry
    | .atom, "link" =>
      passNodes inner children
      return { entry with link? := entry.link?.or ((attribute? tag "href").map inner.link) }
    | .media, _ =>
      passMedia scope (.element tag children)
      return entry
    | _, _ =>
      passNodes inner children
      return entry

/-- Reads an entry. -/
def readEntry (scope : Scope) (children : List Node) : Except Fault Item := do
  let entry ← children.foldlM (Entry.readChild scope) ⟨none, none, none, none⟩
  return entry.item

/-- What is known of a feed; the last item comes first. -/
structure Reading where
  title? : Option String
  items : List Item

/-- Takes one child of a feed into account. -/
def Reading.readChild (scope : Scope) (feed : Reading) : Node → Except Fault Reading
  | .text _ => .ok feed
  | .unreadable charset => .error (.charset charset)
  | .element tag children => do
    let inner ← scope.enter tag
    match inner.namespaceOf tag, String.ofList tag.localName with
    | .atom, "title" => return { feed with title? := ← readText inner tag children }
    | .atom, "entry" => return { feed with items := (← readEntry inner children) :: feed.items }
    | .atom, "subtitle" =>
      let _ ← readText inner tag children
      return feed
    | .atom, "rights" =>
      let _ ← readText inner tag children
      return feed
    | _, _ =>
      passNodes inner children
      return feed

/-- Reads the root element; a fault in what its own tag declares leaves the document without one. -/
def readRoot (tag : Tag) (children : List Node) : Except Fault Content := do
  match Scope.start.enter tag with
  | .error _ => throw .noRoot
  | .ok scope =>
    if tag.localName ≠ "feed".toList then throw .noRoot
    let feed ← children.foldlM (Reading.readChild scope) ⟨none, []⟩
    return ⟨feed.title?.getD "", feed.items.reverse⟩

/-! ### Documents -/

/-- The number of octets in which the first bracket has to stand. -/
def sniffed : Nat := 8192

/-- Whether the first bracket of a document stands early enough for the document to be taken for
markup. -/
def looksLikeMarkup (cs : List Char) : Bool :=
  byteLength (cs.takeWhile (· != '<')) < sniffed

/-- The first element among nodes, unless a piece before it is unreadable. -/
def root? : List Node → Option (Tag × List Node)
  | [] => none
  | .text _ :: nodes => root? nodes
  | .element tag children :: _ => some (tag, children)
  | .unreadable _ :: _ => none

/-- Reads a document that is well-formed markup. -/
def read (cs : List Char) : Except Fault Content :=
  if !looksLikeMarkup cs then .error .noRoot
  else
    match root? (Node.ofEvents (recodeEvents (Xml.read cs).events)) with
    | none => .error .noRoot
    | some (tag, children) => readRoot tag children

end Newsstand.Atom
