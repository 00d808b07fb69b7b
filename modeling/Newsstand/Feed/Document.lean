import Newsstand.Atom.Reading
import Newsstand.Feed.Scan
import Newsstand.Log

/-!
# Feed documents

A document becomes a feed by the scan for items. Where the scan finds none and the root element is
called `feed`, the document is read as Atom instead. A document that cannot be read stands for the
empty feed, which only the log tells from a feed without content.
-/

namespace Newsstand.Feed

open Newsstand.Text

/-- Why a document is read as the empty feed. -/
inductive DocumentFault where
  | scan (fault : ScanFault)
  | atom (fault : Atom.Fault)
  deriving Repr

/-- The wording of a fault. -/
def DocumentFault.message : DocumentFault → String
  | .scan fault => fault.message
  | .atom fault => s!"Atom parse error: {fault.message}"

/-- The note that a document is read as the empty feed. -/
def unreadable (url : String) (fault : DocumentFault) : LogEvent :=
  ⟨.debug, "Unreadable feed document, treating as empty",
    [("url", url), ("error", fault.message)]⟩

/-- The feed of a document that is not blank. -/
def readDocument (url : String) (cs : List Char) : Except DocumentFault Feed :=
  match scanDocument cs with
  | .error fault => .error (.scan fault)
  | .ok scanned =>
    if scanned.items = [] ∧ scanned.root = "feed".toList then
      match Atom.read cs with
      | .error fault => .error (.atom fault)
      | .ok content => .ok ⟨url, content.title, content.items⟩
    else .ok ⟨url, scanned.title?.getD "", scanned.items⟩

/-- The feed of a document, with the log. Byte order marks at its start do not count. -/
def read (url body : String) : Feed × Log :=
  let cs := body.toList.dropWhile (· == '\uFEFF')
  if cs.all isBlank then (empty url, [])
  else
    match readDocument url cs with
    | .ok feed => (feed, [])
    | .error fault => (empty url, [unreadable url fault])

end Newsstand.Feed
