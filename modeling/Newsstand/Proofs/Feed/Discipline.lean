import Newsstand.Proofs.Feed.Slots

/-!
# The discipline of captures

Captures are opened and closed together with elements.  So no slot is captured
twice, every capture is as deep as some open element, and where it directs text
there is something to append to; in particular the captures of an item lie below
the item.  Every event preserves this.
-/

namespace Newsstand.Feed.Scan

open Newsstand.Text Newsstand.Xml

/-- The captures of a scan keep to the elements that are open. -/
structure Disciplined (s : Scan) : Prop where
  distinct : (s.captures.map (·.slot)).Nodup
  level : ∀ c ∈ s.captures, 0 < c.depth ∧ c.depth ≤ s.depth
  target : ∀ c ∈ s.captures, (s.text? c.slot).isSome
  draft : ∀ depth, s.draftDepth? = some depth → 0 < depth ∧ depth ≤ s.depth
  inside : ∀ c ∈ s.captures, c.slot ≠ .feedTitle →
    ∀ depth, s.draftDepth? = some depth → depth < c.depth

theorem disciplined_start : start.Disciplined :=
  ⟨List.nodup_nil, nofun, nofun, nofun, nofun⟩

variable {s t : Scan}

theorem hasSlot_item (s : Scan) (field : Field) :
    s.hasSlot (.item field) = s.draftDepth?.isSome := by
  simp [hasSlot, draftDepth?]

theorem hasSlot_of_isSome {slot : Slot} (h : (s.text? slot).isSome) :
    s.hasSlot slot := by
  cases slot with
  | feedTitle => rfl
  | item field =>
      obtain ⟨text, htext⟩ := Option.isSome_iff_exists.mp h
      obtain ⟨draft, hdraft, -⟩ := Option.bind_eq_some_iff.mp htext
      simp [hasSlot, hdraft]

theorem exists_draftDepth? {slot : Slot} (h : s.hasSlot slot)
    (hne : slot ≠ .feedTitle) : ∃ depth, s.draftDepth? = some depth := by
  cases slot with
  | feedTitle => exact absurd rfl hne
  | item field =>
      rw [hasSlot_item] at h
      exact Option.isSome_iff_exists.mp h

theorem Disciplined.text?_isSome (hs : s.Disciplined) {slot : Slot}
    (h : s.isCaptured slot) : (s.text? slot).isSome := by
  obtain ⟨c, hc, rfl⟩ := List.mem_map.mp (of_decide_eq_true h)
  exact hs.target c hc

/-- Outside of all elements nothing is captured. -/
theorem Disciplined.captures_eq_nil (hs : s.Disciplined) (h : s.depth = 0) :
    s.captures = [] := by
  refine List.eq_nil_iff_forall_not_mem.mpr fun c hc => ?_
  have hlevel := hs.level c hc
  omega

/-! ## Entering an element -/

theorem enter_text? (tag : Tag) {slot : Slot} (h : s.hasSlot slot) :
    (s.enter tag).text? slot =
      if s.fills tag.name slot then some "" else s.text? slot := by
  rw [← s.openElement_text? tag (s.depth + 1) h]
  cases slot <;> rfl

theorem enter_captures (s : Scan) (tag : Tag) :
    (s.enter tag).captures =
      s.captures ++
        (Slot.all.filter (s.fills tag.name)).map (⟨·, s.depth + 1⟩) :=
  s.openElement_captures tag (s.depth + 1)

theorem enter_draftDepth?_of_none (tag : Tag) (h : s.draftDepth? = none) :
    (s.enter tag).draftDepth? =
      if tag.name = "item".toList then some (s.depth + 1) else none := by
  have hdraft := s.openElement_draft?_of_none tag (s.depth + 1)
    (Option.map_eq_none_iff.mp h)
  simp only [draftDepth?, Scan.enter, hdraft]
  split <;> rfl

theorem enter_draftDepth?_of_some (tag : Tag) {depth : ℕ}
    (h : s.draftDepth? = some depth) :
    (s.enter tag).draftDepth? = some depth := by
  have hsome : s.draft?.isSome := by
    simpa [draftDepth?] using congrArg Option.isSome h
  exact (s.openElement_draftDepth? tag (s.depth + 1) hsome).trans h

/-- What is captured in an element was captured before, or begins with it. -/
theorem mem_enter_captures {tag : Tag} {c : Capture} :
    c ∈ (s.enter tag).captures ↔
      c ∈ s.captures ∨ (c.depth = s.depth + 1 ∧ s.fills tag.name c.slot) := by
  rw [enter_captures, List.mem_append, List.mem_map]
  refine or_congr_right ⟨?_, fun ⟨hdepth, hfills⟩ => ?_⟩
  · rintro ⟨slot, hslot, rfl⟩
    exact ⟨rfl, (List.mem_filter.mp hslot).2⟩
  · exact ⟨c.slot, List.mem_filter.mpr ⟨c.slot.mem_all, hfills⟩, hdepth ▸ rfl⟩

theorem Disciplined.enter (hs : s.Disciplined) (tag : Tag) :
    (s.enter tag).Disciplined where
  distinct := by
    have hnew : ((Slot.all.filter (s.fills tag.name)).map
        (⟨·, s.depth + 1⟩ : Slot → Capture)).map (·.slot) =
          Slot.all.filter (s.fills tag.name) := by
      simp [Function.comp_def]
    rw [enter_captures, List.map_append, hnew, List.nodup_append]
    refine ⟨hs.distinct, Slot.nodup_all.filter _, ?_⟩
    rintro slot hslot other hother rfl
    have htext := hs.text?_isSome (decide_eq_true hslot)
    have hfills := of_decide_eq_true (List.mem_filter.mp hother).2
    rw [hfills.2.2] at htext
    cases htext
  level c hc := by
    have hdepth : (s.enter tag).depth = s.depth + 1 := rfl
    rcases mem_enter_captures.mp hc with hold | ⟨hnew, -⟩
    · have hlevel := hs.level c hold
      omega
    · omega
  target c hc := by
    rcases mem_enter_captures.mp hc with hold | ⟨-, hfills⟩
    · have htext := hs.target c hold
      rw [enter_text? tag (hasSlot_of_isSome htext)]
      split
      · rfl
      · exact htext
    · rw [enter_text? tag (of_decide_eq_true hfills).1, if_pos hfills]
      rfl
  draft depth h := by
    have hdepth : (s.enter tag).depth = s.depth + 1 := rfl
    cases hdraft : s.draftDepth? with
    | none =>
        rw [enter_draftDepth?_of_none tag hdraft] at h
        split at h
        · cases h
          omega
        · cases h
    | some old =>
        rw [enter_draftDepth?_of_some tag hdraft] at h
        cases h
        have hlevel := hs.draft _ hdraft
        omega
  inside c hc hslot depth h := by
    have hhas : s.hasSlot c.slot := by
      rcases mem_enter_captures.mp hc with hold | ⟨-, hfills⟩
      · exact hasSlot_of_isSome (hs.target c hold)
      · exact (of_decide_eq_true hfills).1
    obtain ⟨old, hold⟩ := exists_draftDepth? hhas hslot
    rw [enter_draftDepth?_of_some tag hold] at h
    cases h
    rcases mem_enter_captures.mp hc with hbefore | ⟨hnew, -⟩
    · exact hs.inside c hbefore hslot _ hold
    · have hlevel := hs.draft _ hold
      omega

/-! ## Leaving an element -/

theorem exit_depth (s : Scan) : s.exit.depth = s.depth - 1 := by
  simp [Scan.exit, leave]

theorem exit_captures (s : Scan) :
    s.exit.captures = s.captures.filter (·.depth != s.depth) :=
  s.closeElement_captures s.depth

theorem exit_title? (s : Scan) : s.exit.title? = s.title? := by
  simp only [Scan.exit, leave, closeElement]
  split
  · split <;> rfl
  · rfl

/-- The item whose element is left is finished. -/
theorem exit_of_item {draft : Draft} (hdraft : s.draft? = some draft)
    (hdepth : draft.depth = s.depth) :
    s.exit.draftDepth? = none ∧ s.exit.items = s.items.push draft.finish := by
  rw [Scan.exit, s.closeElement_of_draft s.depth hdraft hdepth]
  exact ⟨rfl, rfl⟩

/-- Any other element leaves what is collected as it is. -/
theorem exit_of_ne (h : s.draftDepth? ≠ some s.depth) :
    s.exit.draftDepth? = s.draftDepth? ∧ s.exit.items = s.items ∧
      ∀ slot, s.exit.text? slot = s.text? slot := by
  rw [Scan.exit, s.closeElement_of_ne s.depth h]
  exact ⟨rfl, rfl, fun slot => by cases slot <;> rfl⟩

theorem Disciplined.exit (hs : s.Disciplined) : s.exit.Disciplined := by
  have hmem {c : Capture} (hc : c ∈ s.exit.captures) :
      c ∈ s.captures ∧ c.depth ≠ s.depth := by
    rw [exit_captures, List.mem_filter] at hc
    exact ⟨hc.1, by simpa using hc.2⟩
  have hdistinct : (s.exit.captures.map (·.slot)).Nodup := by
    rw [exit_captures]
    exact hs.distinct.sublist (List.filter_sublist.map _)
  have hlevel :
      ∀ c ∈ s.exit.captures, 0 < c.depth ∧ c.depth ≤ s.exit.depth := by
    intro c hc
    obtain ⟨hbefore, hne⟩ := hmem hc
    have hlevel := hs.level c hbefore
    rw [exit_depth]
    omega
  by_cases hitem : s.draftDepth? = some s.depth
  · obtain ⟨draft, hdraft, hdepth⟩ := Option.map_eq_some_iff.mp hitem
    obtain ⟨hnone, -⟩ := exit_of_item hdraft hdepth
    refine ⟨hdistinct, hlevel, ?_, by simp [hnone], by simp [hnone]⟩
    intro c hc
    obtain ⟨hbefore, -⟩ := hmem hc
    have htitle : c.slot = .feedTitle := by
      refine Decidable.byContradiction fun hslot => ?_
      have hlt := hs.inside c hbefore hslot _ hitem
      have hle := (hs.level c hbefore).2
      omega
    have htarget := hs.target c hbefore
    rw [htitle] at htarget ⊢
    exact (congrArg Option.isSome s.exit_title?).trans htarget
  · obtain ⟨hsame, -, htext⟩ := exit_of_ne hitem
    refine ⟨hdistinct, hlevel, ?_, ?_, ?_⟩
    · intro c hc
      rw [htext]
      exact hs.target c (hmem hc).1
    · intro depth hdepth
      rw [hsame] at hdepth
      have hle := hs.draft depth hdepth
      have hne : depth ≠ s.depth := by
        rintro rfl
        exact hitem hdepth
      rw [exit_depth]
      omega
    · intro c hc hslot depth hdepth
      rw [hsame] at hdepth
      exact hs.inside c (hmem hc).1 hslot depth hdepth

theorem closeElement_withDepth (s : Scan) (n depth : ℕ) :
    ({ s with depth := n } : Scan).closeElement depth =
      { s.closeElement depth with depth := n } := by
  unfold closeElement
  dsimp only
  split
  · split <;> rfl
  · rfl

/-- A self-closing tag does what a start tag and an end tag do. -/
theorem visit_eq (s : Scan) (tag : Tag) : s.visit tag = (s.enter tag).exit := by
  simp only [visit, Scan.exit, leave, Scan.enter, closeElement_withDepth]
  congr 1
  · simp
  · simp

theorem Disciplined.appendText (hs : s.Disciplined) (text : String) :
    (s.appendText text).Disciplined where
  distinct := by
    rw [appendText_captures]
    exact hs.distinct
  level c hc := by
    rw [appendText_captures] at hc
    rw [appendText_depth]
    exact hs.level c hc
  target c hc := by
    rw [appendText_captures] at hc
    rw [s.appendText_text? text c.slot hs.distinct]
    split <;> simp [hs.target c hc]
  draft depth h := by
    rw [appendText_draftDepth?] at h
    rw [appendText_depth]
    exact hs.draft depth h
  inside c hc hslot depth h := by
    rw [appendText_captures] at hc
    rw [appendText_draftDepth?] at h
    exact hs.inside c hc hslot depth h

theorem Advance.disciplined (hs : s.Disciplined) {event : Event}
    (h : s.Advance event t) : t.Disciplined := by
  cases h with
  | opened hroot hdepth => exact hs.enter _
  | single hroot =>
      rw [visit_eq]
      exact (hs.enter _).exit
  | closed hdepth => exact hs.exit
  | text hresolve hdepth => exact hs.appendText _
  | cdata hdepth => exact hs.appendText _
  | _ => exact hs

theorem Disciplined.run (hs : s.Disciplined) {events : List Event}
    (h : s.run events = .ok t) : t.Disciplined := by
  induction events generalizing s with
  | nil =>
      cases h
      exact hs
  | cons event events ih =>
      obtain ⟨next, hstep, hrest⟩ := run_cons_eq_ok h
      exact ih (hstep.disciplined hs) hrest

end Newsstand.Feed.Scan
