import Newsstand.Proofs.Xml.Level
import Newsstand.Xml.Tree

/-!
# The events that spell nodes

Nodes are spelled by their events in document order: an element by its start
tag, its content and its end tag, or by a self-closing tag if it has no content.
Comments and the like may stand anywhere.  Where every reference has a meaning
and every element is closed, the events of a document spell its tree, so facts
about a document can be proved by induction on `Spells`.
-/

namespace Newsstand.Xml

/-- The events spell the nodes. -/
inductive Spells : List Event → List Node → Prop where
  | nil : Spells [] []
  | text {raw cs : List Char} {events : List Event} {nodes : List Node}
      (hresolve : resolve raw = .ok cs) (hrest : Spells events nodes) :
      Spells (.text raw :: events) (.text cs :: nodes)
  | cdata {body : List Char} {events : List Event} {nodes : List Node}
      (hrest : Spells events nodes) :
      Spells (.cdata body :: events) (.text body :: nodes)
  | single {tag : Tag} {events : List Event} {nodes : List Node}
      (hrest : Spells events nodes) :
      Spells (.single tag :: events) (.element tag [] :: nodes)
  | element {tag : Tag} {name : List Char} {inner events : List Event}
      {content nodes : List Node} (hinner : Spells inner content)
      (hrest : Spells events nodes) :
      Spells (.opened tag :: (inner ++ .closed name :: events))
        (.element tag content :: nodes)
  | doctype {body : List Char} {events : List Event} {nodes : List Node}
      (hrest : Spells events nodes) : Spells (.doctype body :: events) nodes
  | comment {events : List Event} {nodes : List Node}
      (hrest : Spells events nodes) : Spells (.comment :: events) nodes
  | instruction {content : List Char} {events : List Event}
      {nodes : List Node} (hrest : Spells events nodes) :
      Spells (.instruction content :: events) nodes

theorem Spells.append {events rest : List Event} {nodes more : List Node}
    (h : Spells events nodes) (hmore : Spells rest more) :
    Spells (events ++ rest) (nodes ++ more) := by
  induction h with
  | nil => exact hmore
  | text hresolve _ ih => exact .text hresolve ih
  | cdata _ ih => exact .cdata ih
  | single _ ih => exact .single ih
  | element hinner _ _ ih =>
      rw [List.cons_append, List.append_assoc, List.cons_append,
        List.cons_append]
      exact .element hinner ih
  | doctype _ ih => exact .doctype ih
  | comment _ ih => exact .comment ih
  | instruction _ ih => exact .instruction ih

/-- Nodes end on the level on which they begin. -/
theorem levelBehind_of_spells {events : List Event} {nodes : List Node}
    (h : Spells events nodes) (level : ℕ) : levelBehind level events = level := by
  induction h generalizing level with
  | nil => rfl
  | @element tag name inner events content nodes hinner hrest ihinner ih =>
      have hcontent := ihinner (level + 1)
      have hbehind := ih level
      simp only [levelBehind, List.foldl_cons, List.foldl_append,
        Event.levelAfter] at hcontent hbehind ⊢
      rw [hcontent]
      exact hbehind
  | text _ _ ih => exact ih level
  | cdata _ ih => exact ih level
  | single _ ih => exact ih level
  | doctype _ ih => exact ih level
  | comment _ ih => exact ih level
  | instruction _ ih => exact ih level

/-! ## Trees under construction -/

/-- The events spell a tree that is still under construction: the nodes before
each open element, its start tag, and the nodes in the innermost one. -/
inductive Unfinished : List Event → Nesting → Prop where
  | top {events : List Event} {nodes : List Node}
      (h : Spells events nodes.reverse) : Unfinished events ⟨[], nodes⟩
  | inside {events inner : List Event} {tag : Tag}
      {outer : List (Tag × List Node)} {before nodes : List Node}
      (houter : Unfinished events ⟨outer, before⟩)
      (hinner : Spells inner nodes.reverse) :
      Unfinished (events ++ .opened tag :: inner)
        ⟨(tag, before) :: outer, nodes⟩

variable {past events : List Event} {nesting : Nesting}

theorem Unfinished.append (h : Unfinished past nesting) {nodes : List Node}
    (hnodes : Spells events nodes) :
    Unfinished (past ++ events)
      ⟨nesting.outer, nodes.reverse ++ nesting.nodes⟩ := by
  cases h with
  | top h =>
      refine .top ?_
      rw [List.reverse_append, List.reverse_reverse]
      exact h.append hnodes
  | inside houter hinner =>
      rw [List.append_assoc, List.cons_append]
      refine .inside houter ?_
      rw [List.reverse_append, List.reverse_reverse]
      exact hinner.append hnodes

theorem Unfinished.step (h : Unfinished past nesting) {event : Event}
    (hclosed : ∀ name, event = .closed name → nesting.outer ≠ [])
    (hresolved : ∀ raw, event = .text raw → ∃ cs, resolve raw = .ok cs) :
    Unfinished (past ++ [event]) (nesting.step event) := by
  cases event with
  | opened tag => exact .inside h .nil
  | single tag => exact h.append (.single .nil)
  | closed name =>
      cases h with
      | top h => exact absurd rfl (hclosed name rfl)
      | @inside events inner tag outer before nodes houter hinner =>
          have helement : Spells (.opened tag :: (inner ++ [.closed name]))
              [.element tag nodes.reverse] := .element hinner .nil
          rw [List.append_assoc, List.cons_append]
          exact houter.append helement
  | text raw =>
      obtain ⟨cs, hresolve⟩ := hresolved raw rfl
      simp only [Nesting.step, hresolve]
      exact h.append (.text hresolve .nil)
  | cdata body => exact h.append (.cdata .nil)
  | doctype body => exact h.append (.doctype .nil)
  | comment => exact h.append (.comment .nil)
  | instruction content => exact h.append (.instruction .nil)

/-- The level is the number of elements under construction. -/
theorem length_outer_step (nesting : Nesting) (event : Event) :
    (nesting.step event).outer.length =
      event.levelAfter nesting.outer.length := by
  cases event with
  | closed name =>
      simp only [Nesting.step, Event.levelAfter]
      split <;> simp_all
  | text raw =>
      simp only [Nesting.step]
      split <;> rfl
  | _ => rfl

theorem Unfinished.steps (h : Unfinished past nesting)
    (hclosed : ∀ name,
      (0, .closed name) ∉ levelled nesting.outer.length events)
    (hresolved : ∀ raw, .text raw ∈ events → ∃ cs, resolve raw = .ok cs) :
    Unfinished (past ++ events) (events.foldl Nesting.step nesting) ∧
      (events.foldl Nesting.step nesting).outer.length =
        levelBehind nesting.outer.length events := by
  induction events generalizing past nesting with
  | nil =>
      rw [List.append_nil]
      exact ⟨h, rfl⟩
  | cons event events ih =>
      have hstep : Unfinished (past ++ [event]) (nesting.step event) := by
        refine h.step ?_ ?_
        · rintro name rfl houter
          refine hclosed name ?_
          simp [levelled, houter]
        · rintro raw rfl
          exact hresolved raw List.mem_cons_self
      obtain ⟨hsteps, hlength⟩ := ih hstep
        (by
          rw [length_outer_step]
          exact fun name hmem => hclosed name (List.mem_cons_of_mem _ hmem))
        (fun raw hmem => hresolved raw (List.mem_cons_of_mem _ hmem))
      rw [List.append_assoc] at hsteps
      refine ⟨hsteps, ?_⟩
      rw [length_outer_step] at hlength
      exact hlength

/-- The events of a document in which all references have a meaning and all
elements are closed spell its tree. -/
theorem spells_ofEvents (hclosed : levelBehind 0 events = 0)
    (hmatched : ∀ name, (0, .closed name) ∉ levelled 0 events)
    (hresolved : ∀ raw, .text raw ∈ events → ∃ cs, resolve raw = .ok cs) :
    Spells events (Node.ofEvents (events.map .ok)) := by
  have hstart : Unfinished [] .start := .top .nil
  obtain ⟨hsteps, hlength⟩ := hstart.steps hmatched hresolved
  have hfold : (events.map .ok).foldl Nesting.stepDecoded .start =
      events.foldl Nesting.step .start := List.foldl_map
  rw [List.nil_append] at hsteps
  simp only [Node.ofEvents, hfold]
  generalize events.foldl Nesting.step .start = nesting at hsteps hlength
  cases hsteps with
  | top h => exact h
  | inside houter hinner =>
      rw [List.length_cons] at hlength
      exact absurd (hlength.trans hclosed) (Nat.succ_ne_zero _)

end Newsstand.Xml
