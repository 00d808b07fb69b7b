import Newsstand.Log
import Newsstand.Url.FeedUrl
import Newsstand.Xml.Attribute
import Newsstand.Xml.Reference

/-!
# Subscription outlines

An outline document lists feeds: every `outline` tag with an `xmlUrl` attribute names one, at any
nesting depth. The feeds are taken in document order, each once; tags without the attribute are
folders. A malformed attribute or a URL that names no feed is skipped with a warning, while a fault
of the markup, an unreadable value or too deep nesting ends the reading.
-/

namespace Newsstand.Outline

open Newsstand.Text Newsstand.Xml

/-- The number of `outline` elements that may be open at once. -/
def maxDepth : Nat := 50

/-- Why an outline document cannot be read. -/
inductive Fault where
  | tooDeep (limit : Nat)
  | markup (fault : Xml.Fault)
  deriving DecidableEq, Repr

/-- The wording of a fault. -/
def Fault.message : Fault → String
  | .tooDeep limit => s!"OPML nesting depth exceeds maximum of {limit} levels"
  | .markup fault => s!"XML parse error: {fault.message}"

/-- The warning about a malformed attribute. -/
def malformedAttribute (fault : AttributeFault) : LogEvent :=
  ⟨.warn, "Skipping malformed OPML attribute", [("error", fault.message)]⟩

/-- The warning about a URL that names no feed. -/
def invalidFeedUrl (url : String) (fault : FeedUrlFault) : LogEvent :=
  ⟨.warn, "Skipping invalid feed URL", [("url", url), ("error", fault.message)]⟩

/-- The note about a URL that the document names again. -/
def duplicateFeedUrl (url : String) : LogEvent :=
  ⟨.debug, "Duplicate feed URL in OPML", [("url", url)]⟩

/-- Whether a name is that of the tags that are read. -/
def isOutline (name : List Char) : Bool :=
  name == "outline".toList

/-- What the reading knows after some events: the number of open `outline` elements, the feeds and
the log, the last one first each. -/
structure State where
  depth : Nat
  urls : List String
  log : List LogEvent
  deriving Repr

namespace State

/-- The state before the first event. -/
def start : State :=
  ⟨0, [], []⟩

/-- The state with one more log event. -/
def report (state : State) (event : LogEvent) : State :=
  { state with log := event :: state.log }

/-- Takes a URL into the list if it names a feed that is not there yet. -/
def addUrl (state : State) (url : String) : State :=
  match Url.readFeedUrl url with
  | .error fault => state.report (invalidFeedUrl url fault)
  | .ok _ =>
    if url ∈ state.urls then state.report (duplicateFeedUrl url)
    else { state with urls := url :: state.urls }

end State

/-- The trimmed text of an attribute's value. -/
def valueText (entry : Attribute) : Except ReferenceFault String :=
  (resolve entry.value).map fun text => trim (String.ofList text)

/-- The last feed URL among the attributes, if there is one, with the log of the malformed ones. An
unreadable URL ends the search. -/
def findUrl (url? : Option String) (log : List LogEvent) :
    List AttributeResult → Except ReferenceFault (Option String) × List LogEvent
  | [] => (.ok url?, log)
  | .error fault :: rest => findUrl url? (malformedAttribute fault :: log) rest
  | .ok entry :: rest =>
    if entry.key = "xmlUrl".toList then
      match valueText entry with
      | .error fault => (.error fault, log)
      | .ok url => findUrl (some url) log rest
    else findUrl url? log rest

/-- The state after the attributes of an `outline` tag, with the fault that ends the reading if
there is one. -/
def State.readTag (state : State) (tag : Tag) : State × Option Fault :=
  match findUrl none state.log tag.attributes with
  | (.error fault, log) => ({ state with log }, some (.markup (.reference fault)))
  | (.ok none, log) => ({ state with log }, none)
  | (.ok (some url), log) => (({ state with log } : State).addUrl url, none)

/-- The state after one more event, with the fault that ends the reading if there is one. -/
def State.step (state : State) : Event → State × Option Fault
  | .opened tag =>
    if isOutline tag.name then
      if maxDepth < state.depth + 1 then
        ({ state with depth := state.depth + 1 }, some (.tooDeep maxDepth))
      else ({ state with depth := state.depth + 1 } : State).readTag tag
    else (state, none)
  | .single tag => if isOutline tag.name then state.readTag tag else (state, none)
  | .closed name =>
    if isOutline name then ({ state with depth := state.depth - 1 }, none) else (state, none)
  | _ => (state, none)

/-- The state after a list of events, up to the first fault. -/
def State.run (state : State) : List Event → State × Option Fault
  | [] => (state, none)
  | event :: events =>
    match state.step event with
    | (state, none) => state.run events
    | (state, some fault) => (state, some fault)

/-- Reads the feeds of a transcript, with the log. -/
def readTranscript (transcript : Transcript) : Except Fault (List String) × Log :=
  match State.start.run transcript.events with
  | (state, some fault) => (.error fault, state.log.reverse)
  | (state, none) =>
    match transcript.fault with
    | some fault => (.error (.markup fault), state.log.reverse)
    | none => (.ok state.urls.reverse, state.log.reverse)

/-- Reads the feeds that an outline document lists, with the log. -/
def read (content : String) : Except Fault (List String) × Log :=
  readTranscript (Xml.read content.toList)

end Newsstand.Outline
