import Newsstand.Url.Fault

/-!
# Faults of Atom documents

Why a document is no Atom feed: it has no usable root element, a text is of a kind that has no
reading, a declaration of a prefix or of a base URL is wrong, or its octets are no text.
-/

namespace Newsstand.Atom

/-- Why a prefix cannot be bound to a namespace. -/
inductive BindingFault where
  | xmlPrefix (uri : String)
  | xmlnsPrefix (uri : String)
  | xmlUri (name : String)
  | xmlnsUri (name : String)
  deriving DecidableEq, Repr

/-- The namespace of the prefix `xml`. -/
def xmlUri : String := "http://www.w3.org/XML/1998/namespace"

/-- The namespace of the prefix `xmlns`. -/
def xmlnsUri : String := "http://www.w3.org/2000/xmlns/"

/-- The wording of a wrong binding. -/
def BindingFault.message : BindingFault → String
  | .xmlPrefix uri => s!"the namespace prefix 'xml' cannot be bound to '\"{uri}\"'"
  | .xmlnsPrefix uri => s!"the namespace prefix 'xmlns' cannot be bound to '\"{uri}\"'"
  | .xmlUri name =>
    "the namespace prefix '\"" ++ name ++ "\"' cannot be bound to '" ++ Atom.xmlUri ++ "'"
  | .xmlnsUri name =>
    "the namespace prefix '\"" ++ name ++ "\"' cannot be bound to '" ++ Atom.xmlnsUri ++ "'"

/-- Why a document is no Atom feed. -/
inductive Fault where
  | noRoot
  | unsupportedType (name : String)
  | missing (what : String)
  | base (fault : UrlFault)
  | binding (fault : BindingFault)
  | charset (name : String)
  deriving DecidableEq, Repr

/-- The wording of a fault. -/
def Fault.message : Fault → String
  | .noRoot => "unable to parse feed: no root element"
  | .unsupportedType name => s!"unable to parse feed: unsupported content type {name}"
  | .missing what => s!"unable to parse feed: missing content element {what}"
  | .base fault => s!"unable to parse XML: Url error: {fault.message}"
  | .binding fault => s!"unable to parse XML: Parser error: {fault.message}"
  | .charset name => s!"unable to parse XML: Parser error: cannot decode input using {name}"

end Newsstand.Atom
