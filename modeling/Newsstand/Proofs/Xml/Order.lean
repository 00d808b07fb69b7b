import Newsstand.Proofs.Xml.Elements

/-!
# Tags in the order of their elements

The elements of the tree of a document stand in the order of their start tags.
This holds of every list of events: also of one that leaves elements open, which
the tree closes at its end, and of one with text that cannot be resolved.
-/

namespace Newsstand.Xml

/-- The tag of an element that begins with an event. -/
def Event.tag? : Event → Option Tag
  | .opened tag => some tag
  | .single tag => some tag
  | _ => none

/-- The tags of the elements in some nodes, in document order. -/
def tagsIn (nodes : List Node) : List Tag :=
  (elementsIn [] nodes).map (·.tag)

theorem tagsIn_append (nodes more : List Node) :
    tagsIn (nodes ++ more) = tagsIn nodes ++ tagsIn more := by
  rw [tagsIn, elementsIn_append, List.map_append]
  rfl

theorem tagsIn_element (tag : Tag) (content : List Node) :
    tagsIn [.element tag content] = tag :: tagsIn content := by
  rw [tagsIn, elementsIn_singleton, List.map_cons, List.map_map]
  rfl

namespace Nesting

/-- The tags of the elements before the end of the innermost open one, and of
the open ones. -/
def tagsBefore : List (Tag × List Node) → List Tag
  | [] => []
  | (tag, before) :: outer => tagsBefore outer ++ tagsIn before.reverse ++ [tag]

/-- The tags of all elements that have begun. -/
def tags (nesting : Nesting) : List Tag :=
  tagsBefore nesting.outer ++ tagsIn nesting.nodes.reverse

theorem tags_add (nesting : Nesting) (node : Node) :
    (nesting.add node).tags = nesting.tags ++ tagsIn [node] := by
  rw [tags, add, List.reverse_cons, tagsIn_append, ← List.append_assoc]
  rfl

/-- An event adds the tag of the element that begins with it. -/
theorem tags_step (nesting : Nesting) (event : Event) :
    (nesting.step event).tags = nesting.tags ++ event.tag?.toList := by
  cases event with
  | opened tag => simp [step, tags, tagsBefore, tagsIn, elementsIn, Event.tag?]
  | single tag =>
      rw [step, tags_add, tagsIn_element]
      rfl
  | closed name =>
      simp only [step, Event.tag?, Option.toList_none, List.append_nil]
      split
      next => rfl
      next tag before outer houter =>
          simp only [tags, houter, tagsBefore, List.reverse_cons, tagsIn_append,
            tagsIn_element, List.append_assoc, List.singleton_append]
  | text raw =>
      simp only [step]
      split
      next cs hresolve =>
          rw [tags_add]
          rfl
      next fault hresolve =>
          rw [tags_add]
          rfl
  | cdata body =>
      rw [step, tags_add]
      rfl
  | _ => simp [step, Event.tag?]

theorem tags_steps (nesting : Nesting) (events : List Event) :
    (events.foldl step nesting).tags =
      nesting.tags ++ events.filterMap Event.tag? := by
  induction events generalizing nesting with
  | nil => simp
  | cons event events ih =>
      rw [List.foldl_cons, ih, tags_step, List.append_assoc]
      cases htag : event.tag? with
      | none => rw [List.filterMap_cons_none htag]; rfl
      | some tag => rw [List.filterMap_cons_some htag]; rfl

/-- Closing what is open adds no element. -/
theorem tagsIn_close (nodes : List Node) (outer : List (Tag × List Node)) :
    tagsIn (close nodes outer) = tagsBefore outer ++ tagsIn nodes.reverse := by
  induction outer generalizing nodes with
  | nil => rfl
  | cons first outer ih =>
      obtain ⟨tag, before⟩ := first
      simp only [close, ih, tagsBefore, List.reverse_cons, tagsIn_append,
        tagsIn_element, List.append_assoc, List.singleton_append]

end Nesting

/-- The elements of a tree stand in the order in which they begin. -/
theorem tagsIn_ofEvents (events : List Event) :
    tagsIn (Node.ofEvents (events.map .ok)) = events.filterMap Event.tag? := by
  have hfold : (events.map .ok).foldl Nesting.stepDecoded .start =
      events.foldl Nesting.step .start := List.foldl_map
  have htags := Nesting.tags_steps .start events
  simp only [Node.ofEvents, hfold, Nesting.tagsIn_close]
  exact htags

/-! ## Elements of a name -/

mutual

theorem Node.outermostContents_eq_nil_iff (name : List Char) (node : Node) :
    outermostContents name [node] = [] ↔
      ∀ tag ∈ tagsIn [node], tag.name ≠ name := by
  cases node with
  | text cs => simp [outermostContents, tagsIn, elementsIn, Node.elements]
  | element tag content =>
      rw [outermostContents_element, tagsIn_element, List.forall_mem_cons]
      split
      next hname => simp [hname]
      next hname =>
          rw [and_iff_right hname]
          exact outermostContents_eq_nil_iff name content
  | unreadable charset =>
      simp [outermostContents, tagsIn, elementsIn, Node.elements]

/-- There is an outermost element of a name as soon as there is any. -/
theorem outermostContents_eq_nil_iff (name : List Char) (nodes : List Node) :
    outermostContents name nodes = [] ↔
      ∀ tag ∈ tagsIn nodes, tag.name ≠ name := by
  cases nodes with
  | nil => simp [outermostContents, tagsIn, elementsIn]
  | cons node nodes =>
      rw [← List.singleton_append, outermostContents_append, tagsIn_append,
        List.append_eq_nil_iff, List.forall_mem_append,
        node.outermostContents_eq_nil_iff name,
        outermostContents_eq_nil_iff name nodes]

end

end Newsstand.Xml
