import Mathlib.Data.List.Perm.Subperm
import Newsstand.Proofs.Feed.Discipline
import Newsstand.Proofs.Xml.Continuation

/-!
# Captures and open elements

The depth of a capture is that of an open element with the name of its slot, and
the item under way stands in an open `item` element.  The names of the open
elements are read off the events alone, so this holds whatever was nested or
closed in between.
-/

namespace Newsstand.Feed

open Newsstand.Text Newsstand.Xml

/-! ## Names at depths -/

/-- The name of the open element at a depth, where the outermost one has the
depth one and the names of all are listed from the innermost one on. -/
def nameAt? (names : List (List Char)) : ℕ → Option (List Char)
  | 0 => none
  | depth + 1 => names.reverse[depth]?

section NameAt

variable {name : List Char} {names : List (List Char)} {depth : ℕ}

theorem nameAt?_cons_of_le (name : List Char) (h : depth ≤ names.length) :
    nameAt? (name :: names) depth = nameAt? names depth := by
  cases depth with
  | zero => rfl
  | succ depth =>
      rw [nameAt?, nameAt?, List.reverse_cons]
      exact List.getElem?_append_left (by rwa [List.length_reverse])

theorem nameAt?_cons_self :
    nameAt? (name :: names) (names.length + 1) = some name := by
  rw [nameAt?, List.reverse_cons, ← List.length_reverse]
  exact List.getElem?_concat_length

end NameAt

namespace Scan

/-! ## Anchors -/

/-- With these names of open elements, the captures of a scan and its item stand
where elements of their names are open. -/
structure Anchored (names : List (List Char)) (s : Scan) : Prop where
  depth_eq : s.depth = names.length
  captured : ∀ c ∈ s.captures, nameAt? names c.depth = some c.slot.name
  drafted : ∀ depth, s.draftDepth? = some depth →
    nameAt? names depth = some "item".toList

theorem anchored_start : start.Anchored [] :=
  ⟨rfl, nofun, nofun⟩

variable {s t : Scan} {name : List Char} {names : List (List Char)}

theorem Anchored.enter (h : s.Anchored names) (hs : s.Disciplined) (tag : Tag) :
    (s.enter tag).Anchored (tag.name :: names) where
  depth_eq := congrArg (· + 1) h.depth_eq
  captured c hc := by
    rcases mem_enter_captures.mp hc with hold | ⟨hdepth, hfills⟩
    · rw [nameAt?_cons_of_le _ (h.depth_eq ▸ (hs.level c hold).2)]
      exact h.captured c hold
    · rw [hdepth, h.depth_eq, nameAt?_cons_self, (of_decide_eq_true hfills).2.1]
  drafted depth hdraft := by
    cases hbefore : s.draftDepth? with
    | none =>
        rw [enter_draftDepth?_of_none tag hbefore] at hdraft
        split at hdraft
        next hitem =>
            cases hdraft
            rw [h.depth_eq, nameAt?_cons_self, hitem]
        next => cases hdraft
    | some old =>
        rw [enter_draftDepth?_of_some tag hbefore] at hdraft
        cases hdraft
        rw [nameAt?_cons_of_le _ (h.depth_eq ▸ (hs.draft _ hbefore).2)]
        exact h.drafted _ hbefore

theorem Anchored.exit (h : s.Anchored (name :: names)) (hs : s.Disciplined) :
    s.exit.Anchored names := by
  have hdepth : s.depth = names.length + 1 := h.depth_eq
  have hlevel : s.exit.depth = names.length := by
    rw [exit_depth, hdepth, Nat.add_sub_cancel]
  refine ⟨hlevel, fun c hc => ?_, fun depth hdraft => ?_⟩
  · have hle := (hs.exit.level c hc).2
    rw [exit_captures, List.mem_filter] at hc
    rw [← nameAt?_cons_of_le name (hlevel ▸ hle)]
    exact h.captured c hc.1
  · have hle := (hs.exit.draft depth hdraft).2
    rw [← nameAt?_cons_of_le name (hlevel ▸ hle)]
    refine h.drafted depth ?_
    by_cases hitem : s.draftDepth? = some s.depth
    · obtain ⟨draft, hopen, hends⟩ := Option.map_eq_some_iff.mp hitem
      rw [(exit_of_item hopen hends).1] at hdraft
      cases hdraft
    · rw [← (exit_of_ne hitem).1, hdraft]

theorem Anchored.appendText (h : s.Anchored names) (text : String) :
    (s.appendText text).Anchored names where
  depth_eq := by rw [appendText_depth, h.depth_eq]
  captured c hc := h.captured c (by rwa [appendText_captures] at hc)
  drafted depth hdraft :=
    h.drafted depth (by rwa [appendText_draftDepth?] at hdraft)

variable {event : Event} {events : List Event}

theorem Advance.anchored (hadvance : s.Advance event t) (h : s.Anchored names)
    (hs : s.Disciplined) : t.Anchored (event.openAfter names) := by
  cases hadvance with
  | opened hroot hdepth => exact h.enter hs _
  | single hroot =>
      rw [visit_eq]
      exact (h.enter hs _).exit (hs.enter _)
  | closed hdepth =>
      cases names with
      | nil => exact absurd h.depth_eq hdepth
      | cons name names => exact h.exit hs
  | text hresolve hdepth => exact h.appendText _
  | cdata hdepth => exact h.appendText _
  | _ => exact h

theorem Anchored.run (h : s.Anchored names) (hs : s.Disciplined)
    (hrun : s.run events = .ok t) :
    t.Anchored (events.foldl (fun names event => event.openAfter names)
      names) := by
  induction events generalizing s names with
  | nil =>
      cases hrun
      exact h
  | cons event events ih =>
      obtain ⟨next, hadvance, hrest⟩ := run_cons_eq_ok hrun
      exact ih (hadvance.anchored h hs) (hadvance.disciplined hs) hrest

/-! ## Slots are captured once -/

theorem Disciplined.length_captures_le (hs : s.Disciplined) :
    s.captures.length ≤ 4 := by
  have hsub : (s.captures.map (·.slot)).Subperm Slot.all :=
    List.subperm_of_subset hs.distinct fun slot _ => slot.mem_all
  rw [← List.length_map (·.slot)]
  exact hsub.length_le

/-- Text goes to each slot that is captured. -/
theorem Disciplined.exists_text (hs : s.Disciplined) {c : Capture}
    (hc : c ∈ s.captures) (text : String) :
    ∃ old, s.text? c.slot = some old ∧
      (s.appendText text).text? c.slot = some (old ++ text) := by
  obtain ⟨old, hold⟩ := Option.isSome_iff_exists.mp (hs.target c hc)
  have hcaptured : s.isCaptured c.slot :=
    decide_eq_true (List.mem_map_of_mem hc)
  refine ⟨old, hold, ?_⟩
  rw [s.appendText_text? text c.slot hs.distinct, if_pos hcaptured, hold]
  rfl

/-- Only a slot that has not been filled begins to be captured. -/
theorem Advance.text?_eq_none_of_captured (h : s.Advance event t) {c : Capture}
    (hc : c ∈ t.captures) (hnew : c ∉ s.captures) : s.text? c.slot = none := by
  have henter (tag : Tag) (hc : c ∈ (s.enter tag).captures) :
      s.text? c.slot = none := by
    obtain hold | ⟨-, hfills⟩ := mem_enter_captures.mp hc
    · exact absurd hold hnew
    · exact (of_decide_eq_true hfills).2.2
  cases h with
  | opened hroot hdepth => exact henter _ hc
  | single hroot =>
      rw [visit_eq, exit_captures] at hc
      exact henter _ (List.mem_filter.mp hc).1
  | closed hdepth =>
      rw [exit_captures] at hc
      exact absurd (List.mem_filter.mp hc).1 hnew
  | text hresolve hdepth => exact absurd (by rwa [appendText_captures] at hc) hnew
  | cdata hdepth => exact absurd (by rwa [appendText_captures] at hc) hnew
  | _ => exact absurd hc hnew

theorem enter_text?_isSome (tag : Tag) {slot : Slot}
    (h : (s.text? slot).isSome) : ((s.enter tag).text? slot).isSome := by
  rw [enter_text? tag (hasSlot_of_isSome h)]
  split
  · rfl
  · exact h

theorem exit_text?_isSome {slot : Slot} (h : (s.text? slot).isSome) :
    (s.exit.text? slot).isSome ∨ slot ≠ .feedTitle ∧ s.exit.draft? = none := by
  by_cases hitem : s.draftDepth? = some s.depth
  · cases slot with
    | feedTitle => exact Or.inl ((congrArg Option.isSome s.exit_title?).trans h)
    | item field =>
        obtain ⟨draft, hopen, hends⟩ := Option.map_eq_some_iff.mp hitem
        have hnone := (exit_of_item hopen hends).1
        exact Or.inr ⟨nofun, Option.map_eq_none_iff.mp hnone⟩
  · rw [(exit_of_ne hitem).2.2]
    exact Or.inl h

/-- What has been filled stays filled, that of an item until it is finished. -/
theorem Advance.text?_isSome (hadvance : s.Advance event t) (hs : s.Disciplined)
    {slot : Slot} (h : (s.text? slot).isSome) :
    (t.text? slot).isSome ∨ slot ≠ .feedTitle ∧ t.draft? = none := by
  have happend (text : String) : ((s.appendText text).text? slot).isSome := by
    rw [s.appendText_text? text slot hs.distinct]
    split
    · rwa [Option.isSome_map]
    · exact h
  cases hadvance with
  | opened hroot hdepth => exact Or.inl (enter_text?_isSome _ h)
  | single hroot =>
      rw [visit_eq]
      exact exit_text?_isSome (enter_text?_isSome _ h)
  | closed hdepth => exact exit_text?_isSome h
  | text hresolve hdepth => exact Or.inl (happend _)
  | cdata hdepth => exact Or.inl (happend _)
  | _ => exact Or.inl h

/-- Behind any events that are accepted, every capture stands at the depth of an
open element that has the name of its slot, and all text goes to the slots that
are captured.  No slot is captured twice: none at the same time, and none that
has been filled before, while its item is under way.  The fields of an item are
captured below it, and it stands at the depth of an open `item` element.  Behind
the last end tag nothing of this is left. -/
theorem captures_stand_on_open_elements {events : List Event} {s : Scan}
    (h : start.run events = .ok s) :
    let names := openBehind events
    s.depth = names.length ∧
      (∀ c ∈ s.captures, 1 ≤ c.depth ∧ c.depth ≤ names.length ∧
        nameAt? names c.depth = some c.slot.name) ∧
      ((s.captures.map (·.slot)).Nodup ∧ s.captures.length ≤ 4) ∧
      (∀ event t, s.step event = .ok t →
        (∀ c ∈ t.captures, c ∉ s.captures → s.text? c.slot = none) ∧
        ∀ slot, (s.text? slot).isSome →
          (t.text? slot).isSome ∨ slot ≠ .feedTitle ∧ t.draft? = none) ∧
      (∀ c ∈ s.captures, ∀ field, c.slot = .item field →
        ∃ draft, s.draft? = some draft ∧ draft.depth < c.depth ∧
          (draft.field? field).isSome) ∧
      (∀ c ∈ s.captures, ∀ text, ∃ old, s.text? c.slot = some old ∧
        (s.appendText text).text? c.slot = some (old ++ text)) ∧
      (∀ draft, s.draft? = some draft →
        1 ≤ draft.depth ∧ draft.depth ≤ names.length ∧
          nameAt? names draft.depth = some "item".toList) ∧
      (names = [] → s.captures = [] ∧ s.draft? = none) := by
  intro names
  have hs : s.Disciplined := disciplined_start.run h
  have hanchored : s.Anchored names := anchored_start.run disciplined_start h
  have hdraft : ∀ draft, s.draft? = some draft →
      s.draftDepth? = some draft.depth := fun draft hdraft => by
    rw [draftDepth?, hdraft, Option.map_some]
  refine ⟨hanchored.depth_eq, fun c hc => ?_,
    ⟨hs.distinct, hs.length_captures_le⟩, fun event t hstep => ?_,
    fun c hc field hslot => ?_, fun c hc => hs.exists_text hc,
    fun draft hopen => ?_, fun hclosed => ?_⟩
  · obtain ⟨hpos, hle⟩ := hs.level c hc
    exact ⟨hpos, hanchored.depth_eq ▸ hle, hanchored.captured c hc⟩
  · have hadvance := step_eq_ok_iff.mp hstep
    exact ⟨fun c => hadvance.text?_eq_none_of_captured,
      fun slot => hadvance.text?_isSome hs⟩
  · have htarget := hs.target c hc
    rw [hslot] at htarget
    obtain ⟨text, htext⟩ := Option.isSome_iff_exists.mp htarget
    obtain ⟨draft, hopen, hfield⟩ := Option.bind_eq_some_iff.mp htext
    refine ⟨draft, hopen, ?_, by rw [hfield]; rfl⟩
    exact hs.inside c hc (by simp [hslot]) _ (hdraft draft hopen)
  · obtain ⟨hpos, hle⟩ := hs.draft _ (hdraft draft hopen)
    have hname := hanchored.drafted _ (hdraft draft hopen)
    exact ⟨hpos, hanchored.depth_eq ▸ hle, hname⟩
  · have hzero : s.depth = 0 := by rw [hanchored.depth_eq, hclosed]; rfl
    refine ⟨hs.captures_eq_nil hzero, Option.eq_none_iff_forall_ne_some.mpr ?_⟩
    intro draft hopen
    obtain ⟨hpos, hle⟩ := hs.draft _ (hdraft draft hopen)
    omega

/-- A link within the title of an item that is the title of the feed too, behind
an item within the item. -/
theorem captures_stand_on_open_elements_in_title :
    let events := (Xml.read "<rss><item><item/><title>a<link>b".toList).events
    let names := ["link", "title", "item", "rss"].map String.toList
    let captures : List Capture :=
      [⟨.feedTitle, 3⟩, ⟨.item .title, 3⟩, ⟨.item .link, 4⟩]
    ∃ s, start.run events = .ok s ∧ openBehind events = names ∧
      s.captures = captures ∧ s.draftDepth? = some 2 ∧
      (∀ c ∈ captures, nameAt? names c.depth = some c.slot.name) ∧
      nameAt? names 2 = some "item".toList ∧
      (s.appendText "c").text? (.item .title) = some "abc" := by
  intro events names captures
  have hrun : start.run events = .ok ⟨4, false, some "rss".toList, some "ab", #[],
      some ⟨2, some "ab", some "b", none⟩, captures⟩ := by
    decide +kernel
  have hopen : openBehind events = names := by decide +kernel
  obtain ⟨-, hcaptures, -, -, -, htext, hdraft, -⟩ :=
    captures_stand_on_open_elements hrun
  rw [hopen] at hcaptures hdraft
  obtain ⟨old, hold, happend⟩ := htext ⟨.item .title, 3⟩ (by simp [captures]) "c"
  obtain rfl : "ab" = old := Option.some.inj hold
  exact ⟨_, hrun, hopen, rfl, rfl, fun c hc => (hcaptures c hc).2.2,
    (hdraft _ rfl).2.2, happend⟩

end Scan

end Newsstand.Feed
