import Mathlib.Data.Nat.Notation
import Newsstand.Xml.Event

/-!
# Levels of events

The level of an event is the number of elements that are open before it.  The
reader keeps the names of these elements, so an end tag that it lets through
never stands at level zero.
-/

namespace Newsstand.Xml

/-- The number of open elements after an event if there are `level` of them
before it. -/
def Event.levelAfter (level : ℕ) : Event → ℕ
  | .opened _ => level + 1
  | .closed _ => level - 1
  | _ => level

/-- Whether an element begins with an event. -/
def Event.begins : Event → Bool
  | .opened _ => true
  | .single _ => true
  | _ => false

/-- Events with their levels, where the first of them is at `level`. -/
def levelled (level : ℕ) : List Event → List (ℕ × Event)
  | [] => []
  | event :: events =>
      (level, event) :: levelled (event.levelAfter level) events

/-- The number of open elements after some events. -/
def levelBehind (level : ℕ) (events : List Event) : ℕ :=
  events.foldl Event.levelAfter level

/-- Whether an element begins with an event that stands in no other element. -/
def Event.beginsTop (level : ℕ) (event : Event) : Bool :=
  level == 0 && event.begins

/-- The number of elements among some events that stand in no other element. -/
def topCount (level : ℕ) (events : List Event) : ℕ :=
  (levelled level events).countP fun p => p.2.beginsTop p.1

theorem levelled_map_snd (level : ℕ) (events : List Event) :
    (levelled level events).map Prod.snd = events := by
  induction events generalizing level with
  | nil => rfl
  | cons event events ih => rw [levelled, List.map_cons, ih]

theorem topCount_cons (level : ℕ) (event : Event) (events : List Event) :
    topCount level (event :: events) =
      (event.beginsTop level).toNat +
        topCount (event.levelAfter level) events := by
  rw [topCount, levelled, List.countP_cons, Nat.add_comm]
  cases event.beginsTop level <;> simp [topCount]

theorem levelled_append (level : ℕ) (events rest : List Event) :
    levelled level (events ++ rest) =
      levelled level events ++ levelled (levelBehind level events) rest := by
  induction events generalizing level with
  | nil => rfl
  | cons event events ih =>
      rw [List.cons_append, levelled, levelled, ih]
      rfl

theorem levelBehind_concat (level : ℕ) (events : List Event) (event : Event) :
    levelBehind level (events ++ [event]) =
      event.levelAfter (levelBehind level events) :=
  List.foldl_append

theorem mem_events_of_mem_levelled {level n : ℕ} {events : List Event}
    {event : Event} (h : (n, event) ∈ levelled level events) :
    event ∈ events := by
  rw [← levelled_map_snd level events]
  exact List.mem_map_of_mem h

theorem exists_mem_levelled {events : List Event} {event : Event}
    (h : event ∈ events) (level : ℕ) :
    ∃ n, (n, event) ∈ levelled level events := by
  rw [← levelled_map_snd level events] at h
  obtain ⟨⟨n, _⟩, hmem, rfl⟩ := List.mem_map.mp h
  exact ⟨n, hmem⟩

/-! ## The reader -/

/-- What a piece of markup is read as, and what it must begin with to be a tag
with which an element begins. -/
theorem readMarkup_cases {open? : Option (List Char)} {cs rest : List Char}
    {event : Event} (h : readMarkup open? cs = .ok (event, rest)) :
    event = .comment ∨ (∃ body, event = .cdata body) ∨
      (∃ body, event = .doctype body) ∨
      (∃ content, event = .instruction content) ∨
      (∃ name, open? = some name ∧ event = .closed name) ∨
      ∃ c more, cs = c :: more ∧ (c ≠ '!' ∧ c ≠ '/' ∧ c ≠ '?') ∧
        readStartTag cs = .ok (event, rest) := by
  have hdoctype (h : readDoctype cs = .ok (event, rest)) :
      ∃ body, event = .doctype body := by
    unfold readDoctype at h
    split at h
    · split at h
      · split at h
        · cases h
        · cases h
          exact ⟨_, rfl⟩
      · cases h
    · cases h
  unfold readMarkup at h
  split at h
  next => cases h
  next =>
      unfold readComment at h
      split at h
      · cases h
        exact Or.inl rfl
      · cases h
  next =>
      unfold readCData at h
      split at h
      · split at h
        · cases h
          exact Or.inr (Or.inl ⟨_, rfl⟩)
        · cases h
      · cases h
  next => exact Or.inr (Or.inr (Or.inl (hdoctype h)))
  next => exact Or.inr (Or.inr (Or.inl (hdoctype h)))
  next => cases h
  next =>
      unfold readEndTag at h
      split at h
      · cases h
      · split at h
        · cases h
        · split at h
          · cases h
            exact Or.inr (Or.inr (Or.inr (Or.inr (Or.inl ⟨_, rfl, rfl⟩))))
          · cases h
  next =>
      unfold readInstruction at h
      split at h
      · cases h
        exact Or.inr (Or.inr (Or.inr (Or.inl ⟨_, rfl⟩)))
      · cases h
  next hnil _ _ _ _ hmark hslash hquestion =>
      obtain ⟨c, more, rfl⟩ := List.exists_cons_of_ne_nil hnil
      refine Or.inr (Or.inr (Or.inr (Or.inr (Or.inr ⟨c, more, rfl, ?_, h⟩))))
      refine ⟨?_, ?_, ?_⟩
      · rintro rfl
        exact hmark _ rfl
      · rintro rfl
        exact hslash _ rfl
      · rintro rfl
        exact hquestion _ rfl

/-- An end tag that is let through closes the innermost open element. -/
theorem open_of_readMarkup_closed {open? : Option (List Char)}
    {cs name rest : List Char}
    (h : readMarkup open? cs = .ok (.closed name, rest)) :
    open? = some name := by
  rcases readMarkup_cases h with hevent | ⟨_, hevent⟩ | ⟨_, hevent⟩ |
    ⟨_, hevent⟩ | ⟨other, hopen, hevent⟩ | ⟨_, _, _, _, hstart⟩
  · cases hevent
  · cases hevent
  · cases hevent
  · cases hevent
  · cases hevent
    exact hopen
  · unfold readStartTag at hstart
    split at hstart
    · cases hstart
    · split at hstart <;> cases hstart

/-- An event of the reader changes the number of open names as it changes the
level. -/
theorem length_openAfter (event : Event) (openNames : List (List Char)) :
    (event.openAfter openNames).length = event.levelAfter openNames.length := by
  cases event <;> simp [Event.openAfter, Event.levelAfter]

theorem closed_not_mem_levelled_readFrom (openNames : List (List Char))
    (done : List Event) (cs name : List Char)
    (hlevel : levelBehind 0 done.reverse = openNames.length)
    (hdone : (0, .closed name) ∉ levelled 0 done.reverse) :
    (0, .closed name) ∉ levelled 0 (readFrom openNames done cs).events := by
  fun_induction readFrom openNames done cs with
  | case1 openNames done => exact hdone
  | case2 openNames done rest fault hread => exact hdone
  | case3 openNames done rest event rest' hread ih =>
      refine ih ?_ ?_
      · rw [List.reverse_cons, levelBehind_concat, hlevel, length_openAfter]
      · rw [List.reverse_cons, levelled_append, hlevel, List.mem_append]
        rintro (hmem | hmem)
        · exact hdone hmem
        · obtain ⟨hlength, rfl⟩ :
              0 = openNames.length ∧ .closed name = event := by
            simpa [levelled] using hmem
          have hopen := open_of_readMarkup_closed hread
          rw [List.length_eq_zero_iff.mp hlength.symm] at hopen
          cases hopen
  | case4 openNames done c rest hc ih =>
      refine ih ?_ ?_
      · rw [List.reverse_cons, levelBehind_concat, hlevel]
        rfl
      · rw [List.reverse_cons, levelled_append, List.mem_append]
        rintro (hmem | hmem)
        · exact hdone hmem
        · simp [levelled] at hmem

/-- No event of the reader closes an element where none is open. -/
theorem closed_not_mem_levelled_read (cs name : List Char) :
    (0, .closed name) ∉ levelled 0 (read cs).events := by
  unfold read
  split <;>
    exact closed_not_mem_levelled_readFrom [] [] _ name rfl List.not_mem_nil

end Newsstand.Xml
