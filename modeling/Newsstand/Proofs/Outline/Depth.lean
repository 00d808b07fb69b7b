import Newsstand.Proofs.Outline.Listing
import Newsstand.Proofs.Xml.Place

/-!
# Open outlines

The reading of an outline document counts the `outline` elements that are open.
It looks at start tags and end tags only, but since the reader lets no end tag
through that does not fit, the count is that of the names on the reader's
stack.
-/

namespace Newsstand.Outline

open Newsstand.Xml

/-- The number of `outline` elements that are open behind some events. -/
def openOutlines (events : List Event) : ℕ :=
  (openBehind events).countP isOutline

/-- An event of the reader changes the number of open `outline` elements as the
reading counts them. -/
theorem countP_openAfter {names : List (List Char)} {rest rest' : List Char}
    {event : Event} (h : readMarkup names.head? rest = .ok (event, rest')) :
    (event.openAfter names).countP isOutline =
      depthAfter (names.countP isOutline) event := by
  cases event with
  | opened tag =>
      rw [Event.openAfter, List.countP_cons, depthAfter]
      split <;> rfl
  | closed name =>
      obtain ⟨tail, rfl⟩ :=
        List.head?_eq_some_iff.mp (open_of_readMarkup_closed h)
      rw [Event.openAfter, List.tail_cons, depthAfter, List.countP_cons]
      split <;> rfl
  | _ => rfl

theorem countP_foldl_openAfter {names : List (List Char)} {cs : List Char}
    {before : List Event} (h : before <+: (readFrom names [] cs).events) :
    (before.foldl (fun names event => event.openAfter names) names).countP
        isOutline =
      before.foldl depthAfter (names.countP isOutline) := by
  refine beginning_induction ?nil ?markup ?text h
  case nil => exact fun names => rfl
  case markup =>
      intro names rest event rest' before hread ih
      have hcount := countP_openAfter hread
      rw [hcount] at ih
      exact ih
  case text => exact fun names raw before ih => ih

theorem openOutlines_of_front {cs : List Char} {before : List Event}
    (h : before <+: (Xml.read cs).events) :
    openOutlines before = before.foldl depthAfter 0 := by
  unfold Xml.read at h
  split at h
  · exact countP_foldl_openAfter h
  · exact countP_foldl_openAfter h

theorem openOutlines_read (cs : List Char) :
    openOutlines (Xml.read cs).events =
      (Xml.read cs).events.foldl depthAfter 0 :=
  openOutlines_of_front List.prefix_rfl

theorem nested_append (depth : ℕ) (events more : List Event) :
    nested depth (events ++ more) =
      nested depth events ++ nested (events.foldl depthAfter depth) more := by
  induction events generalizing depth with
  | nil => rfl
  | cons event events ih =>
      rw [List.cons_append, nested, nested, ih]
      rfl

/-- A run that comes to its end has counted its events. -/
theorem State.depth_run {s : State} {events : List Event}
    (h : (s.run events).2 = none) :
    (s.run events).1.depth = events.foldl depthAfter s.depth := by
  induction events generalizing s with
  | nil => rfl
  | cons event events ih =>
      obtain ⟨-, hdepth, -⟩ := s.step_cases event
      rw [List.foldl_cons, ← hdepth]
      rcases hstep : s.step event with ⟨t, _ | fault⟩
      · simp only [State.run, hstep] at h ⊢
        exact ih h
      · simp only [State.run, hstep] at h
        cases h

end Newsstand.Outline
