import Newsstand.Proofs.Outline.Depth
import Newsstand.Proofs.Outline.Truncation

/-!
# The guard against deep outlines

The reading of an outline document ends where an `outline` element is opened
within too many others, unless it has ended before.  Of the events before that
place only the start and end tags of `outline` elements count, and what is
counted is how many of these elements are open.
-/

namespace Newsstand.Outline

open Newsstand.Xml

variable {s : State} {before events : List Event}

/-! ## What is counted -/

/-- Whether an event closes an `outline` element in which others may stand. -/
def unnests : Event → Bool
  | .closed name => isOutline name
  | _ => false

theorem countP_openAfter_add {names : List (List Char)} {rest rest' : List Char}
    {event : Event} (h : readMarkup names.head? rest = .ok (event, rest')) :
    (event.openAfter names).countP isOutline + (unnests event).toNat =
      names.countP isOutline + (nests event).toNat := by
  cases event with
  | opened tag =>
      simp only [Event.openAfter, List.countP_cons, nests, unnests]
      cases isOutline tag.name <;> rfl
  | closed name =>
      obtain ⟨tail, rfl⟩ :=
        List.head?_eq_some_iff.mp (open_of_readMarkup_closed h)
      simp only [Event.openAfter, List.tail_cons, List.countP_cons, nests,
        unnests]
      cases isOutline name <;> rfl
  | _ => rfl

/-- The `outline` elements that are open are those that were opened and have not
been closed. -/
theorem openOutlines_add_countP {cs : List Char}
    (h : before <+: (Xml.read cs).events) :
    openOutlines before + before.countP unnests = before.countP nests := by
  have hcount {names : List (List Char)} {cs : List Char} {before : List Event}
      (h : before <+: (readFrom names [] cs).events) :
      (before.foldl (fun names event => event.openAfter names) names).countP
          isOutline + before.countP unnests =
        names.countP isOutline + before.countP nests := by
    refine beginning_induction ?nil ?markup ?text h
    case nil => exact fun names => rfl
    case markup =>
        intro names rest event rest' before hread ih
        have hevent := countP_openAfter_add hread
        simp only [List.foldl_cons, List.countP_cons]
        cases hnests : nests event <;> cases hunnests : unnests event <;>
          simp only [hnests, hunnests, Bool.toNat_true, Bool.toNat_false,
            Bool.false_eq_true, if_true, if_false] at hevent ⊢ <;> omega
    case text => exact fun names raw before ih => ih
  unfold Xml.read at h
  rw [← Nat.zero_add (before.countP nests)]
  split at h
  · exact hcount h
  · exact hcount h

/-! ## Where the reading ends -/

theorem faultAt?_eq_tooDeep_iff (depth : ℕ) (event : Event) :
    faultAt? depth event = some (.tooDeep maxDepth) ↔
      nests event ∧ maxDepth ≤ depth := by
  unfold faultAt?
  split
  next hdeep => exact iff_of_true rfl hdeep
  next hdeep =>
      refine iff_of_false (fun h => ?_) hdeep
      obtain ⟨tag, -, htag⟩ := Option.bind_eq_some_iff.mp h
      unfold tagFault? at htag
      split at htag <;> cases htag

/-- A run ends at the first event at which there is a fault. -/
theorem State.run_fault (s : State) (events : List Event) :
    (s.run events).2 =
      (nested s.depth events).findSome? fun p => faultAt? p.1 p.2 := by
  induction events generalizing s with
  | nil => rfl
  | cons event events ih =>
      obtain ⟨hfault, hdepth, -⟩ := s.step_cases event
      rw [nested, List.findSome?_cons, ← hfault, ← hdepth]
      rcases hstep : s.step event with ⟨t, _ | fault⟩
      · simp only [State.run, hstep]
        exact ih t
      · simp only [State.run, hstep]

/-- Where events are cut, those behind the cut are nested as the ones before it
leave them. -/
theorem eq_of_nested_eq {depth : ℕ} {front back : List (ℕ × Event)}
    {p : ℕ × Event} (h : nested depth events = front ++ p :: back) :
    events = front.map Prod.snd ++ p.2 :: back.map Prod.snd ∧
      p.1 = (front.map Prod.snd).foldl depthAfter depth ∧
      nested depth (front.map Prod.snd) = front := by
  have hevents : events = front.map Prod.snd ++ p.2 :: back.map Prod.snd := by
    rw [← nested_map_snd depth events, h, List.map_append, List.map_cons]
  have hcut := h
  rw [hevents, nested_append, nested] at hcut
  have hlength :
      (nested depth (front.map Prod.snd)).length = front.length := by
    rw [← List.length_map Prod.snd, nested_map_snd, List.length_map]
  obtain ⟨hfront, hrest⟩ := List.append_inj hcut hlength
  exact ⟨hevents, (congrArg Prod.fst (List.cons.inj hrest).1).symm, hfront⟩

/-- As long as nothing is nested too deep, no more elements are open than may
be. -/
theorem foldl_depthAfter_le {depth : ℕ} (hdepth : depth ≤ maxDepth)
    (h : ∀ p ∈ nested depth events, faultAt? p.1 p.2 = none) :
    events.foldl depthAfter depth ≤ maxDepth := by
  induction events generalizing depth with
  | nil => exact hdepth
  | cons event events ih =>
      obtain ⟨hfirst, hrest⟩ := List.forall_mem_cons.mp h
      refine ih ?_ hrest
      have hshallow := ((faultAt?_eq_none_iff depth event).mp hfirst).1
      cases event with
      | opened tag =>
          rw [depthAfter]
          split
          next hname => exact hshallow hname
          next => exact hdepth
      | closed name =>
          rw [depthAfter]
          split <;> omega
      | _ => exact hdepth

/-- Where a tag can be read, an event ends the reading only by its depth. -/
theorem eq_tooDeep_of_faultAt? {depth : ℕ} {event : Event} {fault : Fault}
    (hresolved : ∀ tag, event.tag? = some tag → isOutline tag.name →
      tagFault? tag = none)
    (h : faultAt? depth event = some fault) : fault = .tooDeep maxDepth := by
  unfold faultAt? at h
  split at h
  next => exact (Option.some.inj h).symm
  next =>
      obtain ⟨tag, houtline, hfault⟩ := Option.bind_eq_some_iff.mp h
      obtain ⟨htag, hname⟩ := Option.filter_eq_some_iff.mp houtline
      rw [hresolved tag htag hname] at hfault
      cases hfault

/-- The reading ends at an element that is nested too deep exactly if there is
one before which all tags can be read. -/
theorem run_eq_tooDeep_iff (events : List Event) :
    (State.start.run events).2 = some (.tooDeep maxDepth) ↔
      ∃ before tag after, events = before ++ .opened tag :: after ∧
        isOutline tag.name ∧ before.foldl depthAfter 0 = maxDepth ∧
        ∀ other ∈ before.filterMap Event.tag?, isOutline other.name →
          tagFault? other = none := by
  constructor
  · intro h
    rw [State.run_fault, List.findSome?_eq_some_iff] at h
    obtain ⟨front, ⟨depth, event⟩, back, hsplit, hfault, hnone⟩ := h
    obtain ⟨hevents, hdepth, hfront⟩ := eq_of_nested_eq hsplit
    obtain ⟨hnests, hdeep⟩ := (faultAt?_eq_tooDeep_iff depth event).mp hfault
    have hshallow : ∀ p ∈ nested 0 (front.map Prod.snd),
        faultAt? p.1 p.2 = none := by
      intro p hp
      exact hnone p (hfront ▸ hp)
    have hle := foldl_depthAfter_le (Nat.zero_le maxDepth) hshallow
    have heq : (front.map Prod.snd).foldl depthAfter 0 = maxDepth :=
      Nat.le_antisymm hle (hdeep.trans_eq hdepth)
    cases event with
    | opened tag =>
        refine ⟨front.map Prod.snd, tag, back.map Prod.snd, hevents, hnests,
          heq, ?_⟩
        intro other hother hname
        obtain ⟨event, hevent, htag⟩ := List.mem_filterMap.mp hother
        obtain ⟨p, hp, rfl⟩ := List.mem_map.mp hevent
        exact ((faultAt?_eq_none_iff _ _).mp (hnone p hp)).2 other htag hname
    | _ => cases hnests
  · rintro ⟨before, tag, after, rfl, hname, hdepth, hresolved⟩
    rw [State.run_append]
    have hdepth_run : (State.start.run before).2 = none → _ := State.depth_run
    have hfault_run := State.run_fault State.start before
    rcases hrun : State.start.run before with ⟨t, _ | fault⟩
    all_goals rw [hrun] at hdepth_run hfault_run
    · have htdepth : t.depth = maxDepth := (hdepth_run rfl).trans hdepth
      have hfault := (t.step_cases (.opened tag)).1
      rw [(faultAt?_eq_tooDeep_iff t.depth (.opened tag)).mpr
        ⟨hname, htdepth.ge⟩] at hfault
      rcases hstep : t.step (.opened tag) with ⟨u, result⟩
      rw [hstep] at hfault
      obtain rfl : result = some (.tooDeep maxDepth) := hfault
      simp only [State.run, hstep]
    · obtain ⟨p, hp, hfault⟩ := List.exists_of_findSome?_eq_some hfault_run.symm
      have hevent : p.2 ∈ before := by
        rw [← nested_map_snd State.start.depth before]
        exact List.mem_map_of_mem hp
      have hdeep := eq_tooDeep_of_faultAt? (fun other htag =>
        hresolved other (List.mem_filterMap.mpr ⟨p.2, hevent, htag⟩)) hfault
      exact congrArg some hdeep

theorem readTranscript_eq_tooDeep_iff (t : Transcript) :
    (readTranscript t).1 = .error (.tooDeep maxDepth) ↔
      (State.start.run t.events).2 = some (.tooDeep maxDepth) := by
  unfold readTranscript
  rcases State.start.run t.events with ⟨s, _ | fault⟩
  · cases t.fault <;> simp
  · simp

/-- The reading of a document fails because of its depth exactly if an `outline`
element is opened within fifty others and each tag of such an element before
that one has an address that can be resolved, or none.  As far as the reading
gets without a fault it has counted the elements that are open; these are the
start tags with that name less the end tags, and nothing else counts. -/
theorem read_fails_by_depth_iff (content : String) :
    ((read content).1 = .error (.tooDeep 50) ↔
        ∃ before tag after,
          (Xml.read content.toList).events = before ++ .opened tag :: after ∧
          isOutline tag.name ∧ openOutlines before = 50 ∧
          ∀ other ∈ before.filterMap Event.tag?, isOutline other.name →
            ∀ raw, other.value? "xmlUrl".toList = some raw →
              ∃ text, resolve raw = .ok text) ∧
      ∀ before, before <+: (Xml.read content.toList).events →
        openOutlines before + before.countP unnests = before.countP nests ∧
        ((State.start.run before).2 = none →
          (State.start.run before).1.depth = openOutlines before) := by
  constructor
  · rw [read]
    refine (readTranscript_eq_tooDeep_iff _).trans
      ((run_eq_tooDeep_iff (Xml.read content.toList).events).trans ?_)
    simp only [tagFault?_eq_none_iff]
    refine exists_congr fun before => exists_congr fun tag =>
      exists_congr fun after => and_congr_right fun hevents => ?_
    have hbegins : before <+: (Xml.read content.toList).events :=
      ⟨_, hevents.symm⟩
    rw [openOutlines_of_front hbegins, maxDepth]
  · intro before hbegins
    refine ⟨openOutlines_add_countP hbegins, fun hnone => ?_⟩
    rw [State.depth_run hnone, openOutlines_of_front hbegins]
    rfl

/-- A sibling is closed, fifty elements are open, and a self-closing one and
another element stand in them.  The address of the next one cannot be resolved,
but its depth comes first. -/
theorem read_fails_by_depth_at_unreadable :
    let outline : Event := .opened ⟨"outline".toList⟩
    let before := [outline, .closed "outline".toList] ++
      List.replicate 50 outline ++
      [.single ⟨"outline".toList⟩, .opened ⟨"x".toList⟩]
    let content := String.ofList ("<outline></outline>".toList ++
      (List.replicate 50 "<outline>".toList).flatten ++
      "<outline/><x><outline xmlUrl='&x;'>".toList)
    let events := (Xml.read content.toList).events
    before <+: events ∧ (read content).1 = .error (.tooDeep 50) ∧
      openOutlines before = 50 ∧
      openOutlines before + before.countP unnests = before.countP nests ∧
      (State.start.run before).2 = none ∧
      (State.start.run before).1.depth = 50 := by
  intro outline before content events
  have hevents : events =
      before ++ .opened ⟨"outline xmlUrl='&x;'".toList⟩ :: [] := by
    have hcontent : events = (Xml.read ("<outline></outline>".toList ++
        (List.replicate 50 "<outline>".toList).flatten ++
        "<outline/><x><outline xmlUrl='&x;'>".toList)).events := by
      simp only [events, content, String.toList_ofList]
    rw [hcontent]
    decide +kernel
  have hbegins : before <+: events := ⟨_, hevents.symm⟩
  have hopen : openOutlines before = 50 := by decide +kernel
  have hnone : (State.start.run before).2 = none := by decide +kernel
  obtain ⟨hiff, hcounted⟩ := read_fails_by_depth_iff content
  obtain ⟨hcount, hdepth⟩ := hcounted before hbegins
  have hresolved : ∀ other ∈ before.filterMap Event.tag?,
      other.value? "xmlUrl".toList = none := by decide +kernel
  refine ⟨hbegins, hiff.mpr ⟨before, _, [], hevents, rfl, hopen, ?_⟩, hopen,
    hcount, hnone, (hdepth hnone).trans hopen⟩
  intro other hother _ raw hraw
  rw [hresolved other hother] at hraw
  cases hraw

end Newsstand.Outline
