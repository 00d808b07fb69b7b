import Newsstand.Atom.Fault
import Newsstand.Url.Reading
import Newsstand.Xml.Attribute
import Newsstand.Xml.Reference

/-!
# What elements inherit

An element inherits the namespaces of prefixes and the base of relative URLs from the elements
around it, and may declare its own. A name without a declared namespace counts as an Atom name.
-/

namespace Newsstand.Atom

open Newsstand.Text Newsstand.Xml

/-- The namespaces that are told apart. -/
inductive Namespace where
  | atom
  | media
  | other
  deriving DecidableEq, Repr

/-- The namespace of a URI. -/
def Namespace.ofUri (uri : List Char) : Namespace :=
  if uri = "http://www.w3.org/2005/Atom".toList ∨ uri = [] then .atom
  else if uri = "http://search.yahoo.com/mrss/".toList then .media
  else .other

/-- What holds inside an element: the namespaces of the declared prefixes, the latest first, and the
base URL. -/
structure Scope where
  bindings : List (List Char × List Char)
  base? : Option Url

namespace Scope

/-- What holds outside the root element. -/
def start : Scope :=
  ⟨[("xml".toList, xmlUri.toList), ("xmlns".toList, xmlnsUri.toList)], none⟩

/-- The prefix that an attribute declares, if it declares one. -/
def declared? (key : List Char) : Option (List Char) :=
  if key = "xmlns".toList then some []
  else if key.take 6 = "xmlns:".toList then some (key.drop 6)
  else none

/-- Binds a prefix; two prefixes and two namespaces belong together for good. -/
def bind (scope : Scope) (name uri : List Char) : Except BindingFault Scope :=
  if name = "xml".toList then
    if uri = xmlUri.toList then .ok scope else .error (.xmlPrefix (String.ofList uri))
  else if name = "xmlns".toList then .error (.xmlnsPrefix (String.ofList uri))
  else if uri = xmlUri.toList then .error (.xmlUri (String.ofList name))
  else if uri = xmlnsUri.toList then .error (.xmlnsUri (String.ofList name))
  else .ok { scope with bindings := (name, uri) :: scope.bindings }

/-- Binds the prefixes that attributes declare, up to the first malformed attribute. -/
def bindAll (scope : Scope) : List AttributeResult → Except BindingFault Scope
  | .ok entry :: rest =>
    match declared? entry.key with
    | none => scope.bindAll rest
    | some name =>
      match scope.bind name entry.value with
      | .error fault => .error fault
      | .ok scope => scope.bindAll rest
  | _ => .ok scope

/-- The namespace of a tag's name. -/
def namespaceOf (scope : Scope) (tag : Tag) : Namespace :=
  let owner := if tag.name.contains ':' then tag.name.takeWhile (· != ':') else []
  .ofUri ((scope.bindings.lookup owner).getD [])

end Scope

/-- The text of a tag's attribute, if it has a well-formed one of that name; a value whose
references cannot be resolved stands as it is written. -/
def attribute? (tag : Tag) (name : String) : Option String :=
  tag.attributes.findSome? fun
    | .ok entry =>
      if entry.key = name.toList then
        match resolve entry.value with
        | .ok text => some (String.ofList text)
        | .error _ => some (String.ofList entry.value)
      else none
    | .error _ => none

/-- The base URL inside an element. A relative one is relative to the base around the element and
without effect where there is none. -/
def Scope.enterBase (scope : Scope) (tag : Tag) : Except UrlFault Scope :=
  match attribute? tag "xml:base" with
  | none => .ok scope
  | some text =>
    match Url.read text with
    | .ok url => .ok { scope with base? := some url }
    | .error .relativeWithoutBase =>
      match scope.base? with
      | none => .ok scope
      | some base => (Url.join base text).map fun url => { scope with base? := some url }
    | .error fault => .error fault

/-- What holds inside an element. -/
def Scope.enter (scope : Scope) (tag : Tag) : Except Fault Scope :=
  match scope.bindAll tag.attributes with
  | .error fault => .error (.binding fault)
  | .ok scope => (scope.enterBase tag).mapError .base

/-- The text of a link: an absolute URL in its written form, a relative one joined to the base. What
cannot be read or joined stands as it is. -/
def Scope.link (scope : Scope) (text : String) : String :=
  let text := trim text
  match Url.read text with
  | .ok url => url.text
  | .error _ =>
    match scope.base?.map (Url.join · text) with
    | some (.ok url) => url.text
    | _ => text

end Newsstand.Atom
