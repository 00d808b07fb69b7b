import Mathlib.Data.List.Nodup

/-!
# Lists with distinct keys

Of a list whose elements have distinct keys, taking away a key takes away one
element.
-/

namespace Newsstand

variable {α β : Type*} {key : α → β} {l : List α}

/-- Where keys are distinct, an element and those with other keys are all. -/
theorem perm_cons_filter_key [DecidableEq β] (h : (l.map key).Nodup) {a : α}
    (ha : a ∈ l) : l.Perm (a :: l.filter fun b => key b != key a) := by
  induction l with
  | nil => simp at ha
  | cons b l ih =>
      rw [List.map_cons, List.nodup_cons] at h
      obtain ⟨hfresh, h⟩ := h
      rcases List.mem_cons.mp ha with rfl | ha
      · have hothers : l.filter (fun b => key b != key a) = l := by
          apply List.filter_eq_self.mpr
          intro b hb
          have hne : key b ≠ key a := fun heq =>
            hfresh (heq ▸ List.mem_map_of_mem hb)
          simpa using hne
        rw [List.filter_cons_of_neg (by simp), hothers]
      · have hne : key b ≠ key a := fun heq =>
          hfresh (heq ▸ List.mem_map_of_mem ha)
        rw [List.filter_cons_of_pos (by simpa using hne)]
        exact ((ih h ha).cons b).trans (List.Perm.swap a b _)

/-- Taking away a key keeps keys distinct. -/
theorem nodup_map_filter (h : (l.map key).Nodup) (p : α → Bool) :
    ((l.filter p).map key).Nodup :=
  h.sublist (List.filter_sublist.map key)

/-- What is looked up under a key stands in the list. -/
theorem mem_of_lookup [DecidableEq α] {l : List (α × β)} {k : α} {v : β}
    (h : l.lookup k = some v) : (k, v) ∈ l := by
  obtain ⟨before, rest, rfl, -⟩ := List.lookup_eq_some_iff.mp h
  simp

/-- Taking away a key leaves what is looked up under another one. -/
theorem lookup_filter_ne [BEq α] [LawfulBEq α] (l : List (α × β))
    {key other : α} (h : other ≠ key) :
    (l.filter (·.1 != key)).lookup other = l.lookup other := by
  induction l with
  | nil => rfl
  | cons entry l ih =>
      obtain ⟨first, value⟩ := entry
      by_cases hfirst : first = key
      · subst hfirst
        rw [List.filter_cons_of_neg (by simp), ih, List.lookup_cons,
          beq_false_of_ne h]
      · rw [List.filter_cons_of_pos (by simpa using hfirst), List.lookup_cons,
          List.lookup_cons, ih]

end Newsstand
