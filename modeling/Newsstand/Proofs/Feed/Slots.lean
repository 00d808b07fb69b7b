import Newsstand.Proofs.Feed.Advance

/-!
# The slots of a scan

A scan collects four texts: the title of the feed, and of the item that is open
its title, link and description.  All four are filled in the same way, so they
are described as slots: which elements fill a slot, what it holds, and whether
text goes to it at the moment.
-/

namespace Newsstand.Feed

open Newsstand.Text Newsstand.Xml

/-- The name of the elements that fill a field. -/
def Field.name : Field → List Char
  | .title => "title".toList
  | .link => "link".toList
  | .description => "description".toList

theorem Field.ofName?_eq_some {name : List Char} {field : Field} :
    Field.ofName? name = some field ↔ name = field.name := by
  unfold Field.ofName?
  constructor
  · intro h
    split at h
    next hname =>
        cases h
        exact hname
    next =>
        split at h
        next hname =>
            cases h
            exact hname
        next =>
            split at h
            next hname =>
                cases h
                exact hname
            next => cases h
  · rintro rfl
    cases field <;> rfl

theorem Field.name_injective {field other : Field}
    (h : field.name = other.name) : field = other := by
  have hfield := Field.ofName?_eq_some.mpr h
  rw [Field.ofName?_eq_some.mpr rfl] at hfield
  exact Option.some.inj hfield

/-- No field is filled by an item. -/
theorem Field.name_ne_item (field : Field) : field.name ≠ "item".toList := by
  cases field <;> decide

/-- The name of the elements that fill a slot. -/
def Slot.name : Slot → List Char
  | .feedTitle => "title".toList
  | .item field => field.name

/-- The fields of an item. -/
def Field.all : List Field :=
  [.title, .link, .description]

/-- All slots. -/
def Slot.all : List Slot :=
  .feedTitle :: Field.all.map .item

theorem filter_fields_eq_nil {p : Slot → Bool}
    (h : ∀ field, p (.item field) = false) :
    (Field.all.map Slot.item).filter p = [] := by
  simp [List.filter_map, Function.comp_def, h]

theorem filter_fields_eq_singleton {p : Slot → Bool} {field : Field}
    (hfield : p (.item field)) (h : ∀ other, p (.item other) → other = field) :
    (Field.all.map Slot.item).filter p = [.item field] := by
  have hnot (other : Field) (hne : other ≠ field) : p (.item other) = false :=
    Bool.eq_false_iff.mpr fun hother => hne (h other hother)
  cases field <;> simp [Field.all, hfield, hnot]

theorem Slot.mem_all (slot : Slot) : slot ∈ Slot.all := by
  cases slot with
  | feedTitle => decide
  | item field => cases field <;> decide

theorem Slot.nodup_all : Slot.all.Nodup := by decide

theorem Draft.field?_modifyField (draft : Draft) (field other : Field)
    (f : Option String → Option String) :
    (draft.modifyField field f).field? other =
      if field = other then f (draft.field? other) else draft.field? other := by
  cases field <;> cases other <;> rfl

@[simp] theorem Draft.modifyField_depth (draft : Draft) (field : Field)
    (f : Option String → Option String) :
    (draft.modifyField field f).depth = draft.depth := by
  cases field <;> rfl

namespace Scan

/-- Whether a scan has a slot: that of the feed's title it always has, those of
an item while an item is open. -/
def hasSlot (s : Scan) : Slot → Bool
  | .feedTitle => true
  | .item _ => s.draft?.isSome

/-- The text in a slot, if an element that fills it has been met. -/
def text? (s : Scan) : Slot → Option String
  | .feedTitle => s.title?
  | .item field => s.draft?.bind (·.field? field)

/-- Whether text goes to a slot. -/
def isCaptured (s : Scan) (slot : Slot) : Bool :=
  slot ∈ s.captures.map (·.slot)

/-- Whether an element of a name is the first one to fill a slot. -/
def fills (s : Scan) (name : List Char) (slot : Slot) : Bool :=
  s.hasSlot slot ∧ name = slot.name ∧ s.text? slot = none

theorem text?_item {s : Scan} {draft : Draft} (h : s.draft? = some draft)
    (field : Field) : s.text? (.item field) = draft.field? field := by
  simp [text?, h]

theorem fills_item {s : Scan} {draft : Draft} (h : s.draft? = some draft)
    (name : List Char) (field : Field) :
    s.fills name (.item field) =
      decide (name = field.name ∧ draft.field? field = none) := by
  simp [fills, hasSlot, Slot.name, text?_item h, h]

theorem fills_item_of_none {s : Scan} (h : s.draft? = none) (name : List Char)
    (field : Field) : s.fills name (.item field) = false := by
  simp [fills, hasSlot, h]

/-! ## Elements that open -/

variable (s : Scan) (tag : Tag) (depth : ℕ)

/-- An element starts an item or fills a field of the open item, or it is of no
concern to items. -/
theorem captureItem_cases :
    (tag.name = "item".toList ∧ s.draft? = none ∧
      s.captureItem tag depth = { s with draft? := some (.blank depth) }) ∨
    (∃ draft field, s.draft? = some draft ∧ tag.name = field.name ∧
      draft.field? field = none ∧
      s.captureItem tag depth =
        { s with
          draft? := some (draft.modifyField field fun _ => some "")
          captures := s.captures ++ [⟨.item field, depth⟩] }) ∨
    ((s.draft? = none → tag.name ≠ "item".toList) ∧
      (∀ field, s.fills tag.name (.item field) = false) ∧
      s.captureItem tag depth = s) := by
  have hidle (h : ∀ draft field, s.draft? = some draft →
      tag.name = field.name → draft.field? field ≠ none) (field : Field) :
      s.fills tag.name (.item field) = false := by
    cases hdraft : s.draft? with
    | none => exact fills_item_of_none hdraft _ _
    | some draft =>
        rw [fills_item hdraft]
        exact decide_eq_false fun hfills =>
          h draft field hdraft hfills.1 hfills.2
  unfold captureItem
  split
  next hname =>
      split
      next hdraft => exact Or.inl ⟨hname, hdraft, rfl⟩
      next draft hdraft =>
          refine Or.inr (Or.inr ⟨by simp [hdraft], hidle ?_, rfl⟩)
          intro _ field _ hfield
          exact absurd (hfield.symm.trans hname) field.name_ne_item
  next hname =>
      split
      next draft field hdraft hfield =>
          rw [Field.ofName?_eq_some] at hfield
          split
          next hnone =>
              exact Or.inr
                (Or.inl ⟨draft, field, hdraft, hfield, hnone, rfl⟩)
          next hsome =>
              refine Or.inr (Or.inr ⟨fun _ => hname, hidle ?_, rfl⟩)
              intro same other hsame hother
              rw [hdraft] at hsame
              cases hsame
              cases Field.name_injective (hfield.symm.trans hother)
              exact hsome
      next hnot =>
          refine Or.inr (Or.inr ⟨fun _ => hname, hidle ?_, rfl⟩)
          intro draft field hdraft hfield
          exact absurd (Field.ofName?_eq_some.mpr hfield)
            (hnot draft field hdraft)

/-- The scan behind an element's part in the title of the feed. -/
def titled (s : Scan) (tag : Tag) (depth : ℕ) : Scan :=
  (s.noteRoot tag).captureTitle tag depth

theorem titled_draft? : (s.titled tag depth).draft? = s.draft? := by
  unfold titled captureTitle noteRoot
  split <;> split <;> rfl

theorem titled_items : (s.titled tag depth).items = s.items := by
  unfold titled captureTitle noteRoot
  split <;> split <;> rfl

theorem titled_fills (name : List Char) (field : Field) :
    (s.titled tag depth).fills name (.item field) =
      s.fills name (.item field) := by
  simp [fills, hasSlot, text?, titled_draft?]

theorem titled_title? :
    (s.titled tag depth).title? =
      if s.fills tag.name .feedTitle then some "" else s.title? := by
  unfold titled captureTitle noteRoot
  split <;> split <;> simp_all [fills, hasSlot, text?, Slot.name]

theorem titled_captures :
    (s.titled tag depth).captures =
      s.captures ++
        ([Slot.feedTitle].filter (s.fills tag.name)).map (⟨·, depth⟩) := by
  unfold titled captureTitle noteRoot
  split <;> split <;> simp_all [fills, hasSlot, text?, Slot.name]

theorem openElement_eq :
    s.openElement tag depth = (s.titled tag depth).captureItem tag depth := rfl

theorem openElement_captures :
    (s.openElement tag depth).captures =
      s.captures ++ (Slot.all.filter (s.fills tag.name)).map (⟨·, depth⟩) := by
  have hall : Slot.all.filter (s.fills tag.name) =
      [Slot.feedTitle].filter (s.fills tag.name) ++
        (Field.all.map Slot.item).filter (s.fills tag.name) := by
    rw [← List.filter_append]
    rfl
  rw [hall, List.map_append, ← List.append_assoc, ← titled_captures,
    openElement_eq]
  rcases (s.titled tag depth).captureItem_cases tag depth with
    ⟨-, hnone, heq⟩ | ⟨draft, field, hdraft, hname, hempty, heq⟩ |
      ⟨-, hnot, heq⟩
  · rw [titled_draft?] at hnone
    rw [filter_fields_eq_nil (fills_item_of_none hnone tag.name), heq]
    simp
  · rw [titled_draft?] at hdraft
    have hfield : s.fills tag.name (.item field) := by
      rw [fills_item hdraft]
      exact decide_eq_true ⟨hname, hempty⟩
    have hother (other : Field) (h : s.fills tag.name (.item other)) :
        other = field :=
      Field.name_injective ((of_decide_eq_true h).2.1.symm.trans hname)
    rw [filter_fields_eq_singleton hfield hother, heq]
    simp
  · rw [filter_fields_eq_nil fun field => (s.titled_fills ..).symm.trans
      (hnot field), heq]
    simp

theorem openElement_text? {slot : Slot} (h : s.hasSlot slot) :
    (s.openElement tag depth).text? slot =
      if s.fills tag.name slot then some "" else s.text? slot := by
  rw [openElement_eq]
  cases slot with
  | feedTitle =>
      rw [show s.text? .feedTitle = s.title? from rfl, ← titled_title?]
      rcases (s.titled tag depth).captureItem_cases tag depth with
        ⟨-, -, heq⟩ | ⟨_, _, -, -, -, heq⟩ | ⟨-, -, heq⟩ <;> rw [heq] <;> rfl
  | item field =>
      obtain ⟨draft, hdraft⟩ := Option.isSome_iff_exists.mp h
      rcases (s.titled tag depth).captureItem_cases tag depth with
        ⟨-, hnone, -⟩ | ⟨same, filled, hsame, hname, hempty, heq⟩ |
          ⟨-, hnot, heq⟩
      · rw [titled_draft?, hdraft] at hnone
        cases hnone
      · rw [titled_draft?, hdraft] at hsame
        cases hsame
        rw [heq, text?_item rfl, draft.field?_modifyField, text?_item hdraft,
          fills_item hdraft]
        by_cases hfilled : filled = field
        · subst hfilled
          simp [hname, hempty]
        · have hne : tag.name ≠ field.name := fun hfield =>
            hfilled (Field.name_injective (hname.symm.trans hfield))
          simp [hfilled, hne]
      · rw [heq, ← titled_fills, hnot]
        simp [text?, titled_draft?]

theorem openElement_items : (s.openElement tag depth).items = s.items := by
  rw [openElement_eq]
  rcases (s.titled tag depth).captureItem_cases tag depth with
    ⟨-, -, heq⟩ | ⟨_, _, -, -, -, heq⟩ | ⟨-, -, heq⟩ <;> rw [heq] <;>
      exact titled_items s tag depth

theorem openElement_draft?_of_none (h : s.draft? = none) :
    (s.openElement tag depth).draft? =
      if tag.name = "item".toList then some (.blank depth) else none := by
  rw [openElement_eq]
  rcases (s.titled tag depth).captureItem_cases tag depth with
    ⟨hname, -, heq⟩ | ⟨draft, _, hdraft, -⟩ | ⟨hname, -, heq⟩
  · rw [heq, if_pos hname]
  · rw [titled_draft?, h] at hdraft
    cases hdraft
  · rw [titled_draft?] at hname
    rw [heq, titled_draft?, if_neg (hname h), h]

/-- The level of the item that is open. -/
def draftDepth? (s : Scan) : Option ℕ :=
  s.draft?.map (·.depth)

theorem openElement_draftDepth? (h : s.draft?.isSome) :
    (s.openElement tag depth).draftDepth? = s.draftDepth? := by
  rw [← titled_draft? s tag depth] at h
  unfold draftDepth?
  rw [openElement_eq, ← titled_draft? s tag depth]
  rcases (s.titled tag depth).captureItem_cases tag depth with
    ⟨-, hnone, -⟩ | ⟨draft, field, hdraft, -, -, heq⟩ | ⟨-, -, heq⟩
  · rw [hnone] at h
    cases h
  · rw [heq, hdraft]
    simp
  · rw [heq]

/-! ## Elements that close -/

theorem closeElement_captures :
    (s.closeElement depth).captures =
      s.captures.filter (·.depth != depth) := by
  unfold closeElement
  dsimp only
  split
  · split <;> rfl
  · rfl

theorem closeElement_of_draft {draft : Draft} (hdraft : s.draft? = some draft)
    (hdepth : draft.depth = depth) :
    s.closeElement depth =
      { s with
        captures := s.captures.filter (·.depth != depth)
        draft? := none
        items := s.items.push draft.finish } := by
  simp only [closeElement, hdraft, if_pos hdepth]

theorem closeElement_of_ne (h : s.draftDepth? ≠ some depth) :
    s.closeElement depth =
      { s with captures := s.captures.filter (·.depth != depth) } := by
  cases hdraft : s.draft? with
  | none => simp only [closeElement, hdraft]
  | some draft =>
      have hne : draft.depth ≠ depth := by simpa [draftDepth?, hdraft] using h
      simp only [closeElement, hdraft, if_neg hne]

/-! ## Text -/

theorem appendTo_text? (text : String) (slot other : Slot) :
    (s.appendTo text slot).text? other =
      if slot = other then (s.text? other).map (· ++ text)
      else s.text? other := by
  cases slot with
  | feedTitle => cases other <;> rfl
  | item field =>
      cases other with
      | feedTitle => rfl
      | item other =>
          simp only [appendTo, text?, Slot.item.injEq]
          cases s.draft? with
          | none => simp
          | some draft => exact draft.field?_modifyField field other _

theorem foldl_appendTo_text? (text : String) (slot : Slot)
    {captures : List Capture}
    (hdistinct : (captures.map (·.slot)).Nodup) :
    (captures.foldl (fun s c => s.appendTo text c.slot) s).text? slot =
      if slot ∈ captures.map (·.slot) then (s.text? slot).map (· ++ text)
      else s.text? slot := by
  induction captures generalizing s with
  | nil => rfl
  | cons c captures ih =>
      rw [List.map_cons, List.nodup_cons] at hdistinct
      rw [List.foldl_cons, ih _ hdistinct.2, appendTo_text?]
      by_cases hslot : c.slot = slot
      · subst hslot
        simp [hdistinct.1]
      · simp [hslot, Ne.symm hslot]

theorem appendText_text? (text : String) (slot : Slot)
    (hdistinct : (s.captures.map (·.slot)).Nodup) :
    (s.appendText text).text? slot =
      if s.isCaptured slot then (s.text? slot).map (· ++ text)
      else s.text? slot := by
  simpa [appendText, isCaptured] using
    s.foldl_appendTo_text? text slot hdistinct

theorem appendText_captures (text : String) :
    (s.appendText text).captures = s.captures :=
  s.appendText_stays text captures fun s slot => by cases slot <;> rfl

theorem appendText_items (text : String) :
    (s.appendText text).items = s.items :=
  s.appendText_stays text items fun s slot => by cases slot <;> rfl

theorem appendText_draftDepth? (text : String) :
    (s.appendText text).draftDepth? = s.draftDepth? := by
  refine s.appendText_stays text draftDepth? fun s slot => ?_
  cases slot with
  | feedTitle => rfl
  | item field => simp [appendTo, draftDepth?, Function.comp_def]

end Scan

end Newsstand.Feed
