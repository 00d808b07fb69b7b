import Mathlib.Data.Nat.Notation
import Newsstand.Feed.Scan

/-!
# What an event does to a scan

A scan goes on behind an event, or the event makes the document no feed.
`Advance` lists the ways in which it goes on, with what each of them asks for.

The frame of a scan is what decides this: the number of open elements, whether
the root element is closed, and its name.  What is collected on the way has no
influence on the frame.
-/

namespace Newsstand.Feed.Scan

open Newsstand.Text Newsstand.Xml

/-! ## Frames -/

/-- The number of open elements, whether the root element is closed, and its
local name. -/
def frame (s : Scan) : ℕ × Bool × Option (List Char) :=
  (s.depth, s.rootClosed, s.root?)

section Frame

variable (s : Scan) (tag : Tag) (depth : ℕ) (text : String)

theorem captureTitle_frame : (s.captureTitle tag depth).frame = s.frame := by
  unfold captureTitle
  split <;> rfl

theorem captureItem_frame : (s.captureItem tag depth).frame = s.frame := by
  unfold captureItem
  split
  · split <;> rfl
  · split
    · split <;> rfl
    · rfl

theorem noteRoot_frame :
    (s.noteRoot tag).frame =
      (s.depth, s.rootClosed, s.root?.or (some tag.localName)) := by
  unfold noteRoot
  split <;> simp [frame, *]

theorem openElement_frame :
    (s.openElement tag depth).frame =
      (s.depth, s.rootClosed, s.root?.or (some tag.localName)) := by
  rw [openElement, captureItem_frame, captureTitle_frame, noteRoot_frame]

theorem closeElement_frame : (s.closeElement depth).frame = s.frame := by
  unfold closeElement
  dsimp only
  split
  · split <;> rfl
  · rfl

/-- What no text in one slot changes, no text changes at all. -/
theorem appendText_stays {α : Type} (f : Scan → α)
    (h : ∀ (s : Scan) (slot : Slot), f (s.appendTo text slot) = f s) :
    f (s.appendText text) = f s := by
  unfold appendText
  induction s.captures generalizing s with
  | nil => rfl
  | cons c captures ih => exact (ih (s.appendTo text c.slot)).trans (h s c.slot)

theorem appendText_frame : (s.appendText text).frame = s.frame :=
  s.appendText_stays text frame fun s slot => by cases slot <;> rfl

@[simp] theorem openElement_depth :
    (s.openElement tag depth).depth = s.depth :=
  congrArg Prod.fst (s.openElement_frame tag depth)

@[simp] theorem openElement_rootClosed :
    (s.openElement tag depth).rootClosed = s.rootClosed :=
  congrArg (·.2.1) (s.openElement_frame tag depth)

@[simp] theorem openElement_root? :
    (s.openElement tag depth).root? = s.root?.or (some tag.localName) :=
  congrArg (·.2.2) (s.openElement_frame tag depth)

@[simp] theorem closeElement_depth :
    (s.closeElement depth).depth = s.depth :=
  congrArg Prod.fst (s.closeElement_frame depth)

@[simp] theorem closeElement_rootClosed :
    (s.closeElement depth).rootClosed = s.rootClosed :=
  congrArg (·.2.1) (s.closeElement_frame depth)

@[simp] theorem closeElement_root? :
    (s.closeElement depth).root? = s.root? :=
  congrArg (·.2.2) (s.closeElement_frame depth)

@[simp] theorem appendText_depth : (s.appendText text).depth = s.depth :=
  congrArg Prod.fst (s.appendText_frame text)

@[simp] theorem appendText_rootClosed :
    (s.appendText text).rootClosed = s.rootClosed :=
  congrArg (·.2.1) (s.appendText_frame text)

@[simp] theorem appendText_root? : (s.appendText text).root? = s.root? :=
  congrArg (·.2.2) (s.appendText_frame text)

end Frame

/-! ## Steps -/

/-- The scan inside an element that opens. -/
def enter (s : Scan) (tag : Tag) : Scan :=
  { s.openElement tag (s.depth + 1) with depth := s.depth + 1 }

/-- The scan behind a self-closing element. -/
def visit (s : Scan) (tag : Tag) : Scan :=
  { (s.openElement tag (s.depth + 1)).closeElement (s.depth + 1) with
    rootClosed := s.rootClosed || s.depth == 0 }

/-- The scan behind an element that closes. -/
def exit (s : Scan) : Scan :=
  (s.closeElement s.depth).leave

/-- The ways in which a scan goes on behind an event. -/
inductive Advance (s : Scan) : Event → Scan → Prop where
  | opened {tag : Tag} (hroot : s.rootClosed = false)
      (hdepth : s.depth < maxDepth) : Advance s (.opened tag) (s.enter tag)
  | single {tag : Tag} (hroot : s.rootClosed = false) :
      Advance s (.single tag) (s.visit tag)
  | closed {name : List Char} (hdepth : s.depth ≠ 0) :
      Advance s (.closed name) s.exit
  | blank {raw text : List Char} (hresolve : resolve raw = .ok text)
      (hdepth : s.depth = 0) (hblank : text.all isBlank) :
      Advance s (.text raw) s
  | text {raw text : List Char} (hresolve : resolve raw = .ok text)
      (hdepth : s.depth ≠ 0) :
      Advance s (.text raw) (s.appendText (String.ofList text))
  | cdata {body : List Char} (hdepth : s.depth ≠ 0) :
      Advance s (.cdata body) (s.appendText (String.ofList body))
  | doctype {body : List Char} : Advance s (.doctype body) s
  | comment : Advance s .comment s
  | instruction {content : List Char} : Advance s (.instruction content) s

theorem step_eq_ok_iff {s t : Scan} {event : Event} :
    s.step event = .ok t ↔ s.Advance event t := by
  constructor
  · intro h
    cases event with
    | opened tag =>
        simp only [step] at h
        split at h
        · cases h
        next hroot =>
            split at h
            · cases h
            next hdepth =>
                cases h
                exact .opened (by simpa using hroot) (by omega)
    | single tag =>
        simp only [step] at h
        split at h
        · cases h
        next hroot =>
            cases h
            have hvisit : s.Advance (.single tag) (s.visit tag) :=
              .single (by simpa using hroot)
            simpa [visit] using hvisit
    | closed name =>
        simp only [step] at h
        split at h
        · cases h
        next hdepth =>
            cases h
            exact .closed hdepth
    | text raw =>
        simp only [step] at h
        split at h
        · cases h
        next text hresolve =>
            split at h
            next hdepth =>
                split at h
                next hblank =>
                    cases h
                    exact .blank hresolve hdepth hblank
                · cases h
            next hdepth =>
                cases h
                exact .text hresolve hdepth
    | cdata body =>
        simp only [step] at h
        split at h
        · cases h
        next hdepth =>
            cases h
            exact .cdata hdepth
    | doctype body =>
        cases h
        exact .doctype
    | comment =>
        cases h
        exact .comment
    | instruction content =>
        cases h
        exact .instruction
  · intro h
    cases h with
    | opened hroot hdepth =>
        have hnot : ¬maxDepth < s.depth + 1 := by omega
        simp only [step, hroot, hnot, if_false, Bool.false_eq_true, enter]
    | single hroot => simp [step, hroot, visit]
    | closed hdepth => simp only [step, if_neg hdepth, exit]
    | blank hresolve hdepth hblank =>
        simp only [step, hresolve, if_pos hdepth, if_pos hblank]
    | text hresolve hdepth => simp only [step, hresolve, if_neg hdepth]
    | cdata hdepth => simp only [step, if_neg hdepth]
    | doctype => rfl
    | comment => rfl
    | instruction => rfl

/-- A run goes on behind some events unless one of them is at fault. -/
theorem run_append (s : Scan) (events more : List Event) :
    s.run (events ++ more) = (s.run events).bind (·.run more) := by
  induction events generalizing s with
  | nil => rfl
  | cons event events ih =>
      simp only [List.cons_append, run]
      cases s.step event with
      | error fault => rfl
      | ok t => exact ih t

theorem run_append_eq_ok {s u : Scan} {events rest : List Event}
    (h : s.run (events ++ rest) = .ok u) :
    ∃ t, s.run events = .ok t ∧ t.run rest = .ok u := by
  rw [run_append] at h
  cases hrun : s.run events with
  | error fault =>
      rw [hrun] at h
      cases h
  | ok t =>
      rw [hrun] at h
      exact ⟨t, rfl, h⟩

/-- The first event of a run makes a step. -/
theorem run_cons_eq_ok {s u : Scan} {event : Event} {events : List Event}
    (h : s.run (event :: events) = .ok u) :
    ∃ t, s.Advance event t ∧ t.run events = .ok u := by
  simp only [run] at h
  split at h
  · cases h
  next t hstep => exact ⟨t, step_eq_ok_iff.mp hstep, h⟩

end Newsstand.Feed.Scan
