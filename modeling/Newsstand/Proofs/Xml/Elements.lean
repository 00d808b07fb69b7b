import Mathlib.Data.Nat.Notation
import Newsstand.Xml.Tree

/-!
# Elements and texts in document order

A tree is looked at as the list of its elements in the order of their start
tags, each with the tags of the elements around it and with what stands between
its own tags, and as the text that is left when all tags are taken away.  Its
height is the number of elements that stand in one another.
-/

namespace Newsstand.Xml

/-- An element of a tree: the tags of the elements around it, the innermost
first, its own tag and its content. -/
structure Element where
  ancestors : List Tag
  tag : Tag
  content : List Node

/-- The element where more elements stand around the whole. -/
def Element.under (e : Element) (outer : List Tag) : Element :=
  { e with ancestors := e.ancestors ++ outer }

mutual

/-- All text in a node. -/
def Node.textWithin : Node → List Char
  | .text cs => cs
  | .element _ content => textBelow content
  | .unreadable _ => []

/-- All text in some nodes. -/
def textBelow : List Node → List Char
  | [] => []
  | node :: nodes => node.textWithin ++ textBelow nodes

end

mutual

/-- The elements of a node that stands in elements with some tags. -/
def Node.elements (ancestors : List Tag) : Node → List Element
  | .text _ => []
  | .element tag content =>
      ⟨ancestors, tag, content⟩ :: elementsIn (tag :: ancestors) content
  | .unreadable _ => []

/-- The elements of some nodes that stand in elements with some tags. -/
def elementsIn (ancestors : List Tag) : List Node → List Element
  | [] => []
  | node :: nodes => node.elements ancestors ++ elementsIn ancestors nodes

end

@[simp] theorem textBelow_append (nodes more : List Node) :
    textBelow (nodes ++ more) = textBelow nodes ++ textBelow more := by
  induction nodes with
  | nil => rfl
  | cons node nodes ih =>
      simp only [List.cons_append, textBelow, ih, List.append_assoc]

theorem elementsIn_append (ancestors : List Tag) (nodes more : List Node) :
    elementsIn ancestors (nodes ++ more) =
      elementsIn ancestors nodes ++ elementsIn ancestors more := by
  induction nodes with
  | nil => rfl
  | cons node nodes ih =>
      simp only [List.cons_append, elementsIn, ih, List.append_assoc]

mutual

theorem Node.elements_under (inner outer : List Tag) (node : Node) :
    node.elements (inner ++ outer) =
      (node.elements inner).map (·.under outer) := by
  cases node with
  | text cs => rfl
  | element tag content =>
      rw [Node.elements, Node.elements, List.map_cons, ← List.cons_append,
        elementsIn_under (tag :: inner) outer content]
      rfl
  | unreadable charset => rfl

theorem elementsIn_under (inner outer : List Tag) (nodes : List Node) :
    elementsIn (inner ++ outer) nodes =
      (elementsIn inner nodes).map (·.under outer) := by
  cases nodes with
  | nil => rfl
  | cons node nodes =>
      rw [elementsIn, elementsIn, List.map_append,
        node.elements_under inner outer, elementsIn_under inner outer nodes]

end

/-- The elements below one element are those of its content. -/
theorem elementsIn_singleton (tag : Tag) (content : List Node) :
    elementsIn [] [.element tag content] =
      ⟨[], tag, content⟩ :: (elementsIn [] content).map (·.under [tag]) := by
  rw [elementsIn, Node.elements, elementsIn, List.append_nil]
  exact congrArg _ (elementsIn_under [] [tag] content)

/-! ## Elements of a name -/

/-- The content of the first element of a name. -/
def firstContent? (name : List Char) (nodes : List Node) :
    Option (List Node) :=
  ((elementsIn [] nodes).find? (·.tag.name = name)).map (·.content)

/-- The contents of the elements of a name around which there is no other
element of this name. -/
def outermostContents (name : List Char) (nodes : List Node) :
    List (List Node) :=
  ((elementsIn [] nodes).filter fun e =>
    e.tag.name = name ∧ ∀ tag ∈ e.ancestors, tag.name ≠ name).map (·.content)

variable (name cs : List Char) (tag : Tag) (content nodes more : List Node)

theorem firstContent?_append :
    firstContent? name (nodes ++ more) =
      (firstContent? name nodes).or (firstContent? name more) := by
  rw [firstContent?, elementsIn_append, List.find?_append, Option.map_or]
  rfl

theorem outermostContents_append :
    outermostContents name (nodes ++ more) =
      outermostContents name nodes ++ outermostContents name more := by
  rw [outermostContents, elementsIn_append, List.filter_append,
    List.map_append]
  rfl

theorem firstContent?_element :
    firstContent? name [.element tag content] =
      if tag.name = name then some content else firstContent? name content := by
  rw [firstContent?, elementsIn_singleton]
  split
  next hname => simp [hname]
  next hname =>
      rw [List.find?_cons_of_neg (by simpa using hname), List.find?_map,
        Option.map_map]
      rfl

/-- What is below an element of the name is not outermost. -/
theorem outermostContents_element :
    outermostContents name [.element tag content] =
      if tag.name = name then [content]
      else outermostContents name content := by
  rw [outermostContents, elementsIn_singleton]
  split
  next hname => simp [hname, List.filter_map, Element.under, Function.comp_def]
  next hname =>
      simp [hname, List.filter_map, Element.under, Function.comp_def,
        outermostContents, or_imp, forall_and]

/-! ## Heights -/

mutual

/-- The number of elements in one another in a node. -/
def Node.height : Node → ℕ
  | .text _ => 0
  | .element _ content => heightOf content + 1
  | .unreadable _ => 0

/-- The number of elements in one another in some nodes. -/
def heightOf : List Node → ℕ
  | [] => 0
  | node :: nodes => max node.height (heightOf nodes)

end

theorem heightOf_append (nodes more : List Node) :
    heightOf (nodes ++ more) = max (heightOf nodes) (heightOf more) := by
  induction nodes with
  | nil => simp [heightOf]
  | cons node nodes ih =>
      simp only [List.cons_append, heightOf, ih, Nat.max_assoc]

theorem heightOf_map_le {α : Type} {f : α → Node} {n : ℕ}
    (h : ∀ a, (f a).height ≤ n) (as : List α) : heightOf (as.map f) ≤ n := by
  induction as with
  | nil => exact Nat.zero_le n
  | cons a as ih => exact Nat.max_le.mpr ⟨h a, ih⟩

end Newsstand.Xml
