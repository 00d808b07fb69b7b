import Newsstand.Proofs.Outline.Links
import Newsstand.Proofs.Support.Trimming

/-!
# The feeds of an outline document

The feeds that a document lists are read off its tags in document order: those
of a certain name, wherever they stand, whose attribute names a feed, each feed
once.  The reading comes to its end exactly if no such tag is nested too deep
and every URL can be resolved, and then it gives these feeds.
-/

namespace Newsstand.Outline

open Newsstand.Text Newsstand.Xml

/-- Events with the numbers of open `outline` elements before them. -/
def nested (depth : ℕ) : List Event → List (ℕ × Event)
  | [] => []
  | event :: events => (depth, event) :: nested (depthAfter depth event) events

/-- The feeds that some tags name, each one once. -/
def listed (tags : List Tag) : List String :=
  ((tags.filter fun tag => isOutline tag.name).filterMap feedUrl?).eraseDups

/-- What events must be to be read to the end. -/
structure Readable (events : List Event) : Prop where
  shallow : ∀ depth tag, (depth, .opened tag) ∈ nested 0 events →
    isOutline tag.name → depth < maxDepth
  resolved : ∀ tag ∈ events.filterMap Event.tag?, isOutline tag.name →
    ∀ raw, tag.value? "xmlUrl".toList = some raw →
      ∃ text, resolve raw = .ok text

variable {events : List Event}

theorem nested_map_snd (depth : ℕ) (events : List Event) :
    (nested depth events).map Prod.snd = events := by
  induction events generalizing depth with
  | nil => rfl
  | cons event events ih => rw [nested, List.map_cons, ih]

/-- Reading goes on behind an event that nests no `outline` element too deep
and names no URL that cannot be resolved. -/
theorem faultAt?_eq_none_iff (depth : ℕ) (event : Event) :
    faultAt? depth event = none ↔
      (nests event → depth < maxDepth) ∧
        ∀ tag, event.tag? = some tag → isOutline tag.name →
          tagFault? tag = none := by
  simp only [faultAt?, outline?]
  by_cases hdeep : nests event ∧ maxDepth ≤ depth
  · rw [if_pos hdeep]
    refine iff_of_false (Option.some_ne_none _) fun h => ?_
    exact absurd (h.1 hdeep.1) (Nat.not_lt.mpr hdeep.2)
  · rw [if_neg hdeep, Option.bind_eq_none_iff]
    have hshallow : nests event → depth < maxDepth := fun hnests =>
      Nat.lt_of_not_le fun hle => hdeep ⟨hnests, hle⟩
    simp only [Option.filter_eq_some_iff, and_imp]
    exact (and_iff_right hshallow).symm

/-- No event ends the reading exactly if the events are readable. -/
theorem readable_iff :
    Readable events ↔ ∀ p ∈ nested 0 events, faultAt? p.1 p.2 = none := by
  simp only [faultAt?_eq_none_iff]
  constructor
  · rintro ⟨hshallow, hresolved⟩ ⟨depth, event⟩ hmem
    refine ⟨fun hnests => ?_, fun tag htag hname => ?_⟩
    · cases event with
      | opened tag => exact hshallow depth tag hmem hnests
      | _ => cases hnests
    · have hevent : event ∈ events := by
        rw [← nested_map_snd 0 events]
        exact List.mem_map_of_mem hmem
      exact (tagFault?_eq_none_iff tag).mpr
        (hresolved tag (List.mem_filterMap.mpr ⟨event, hevent, htag⟩) hname)
  · intro h
    refine ⟨fun depth tag hmem hname => (h _ hmem).1 hname, ?_⟩
    intro tag htag hname
    obtain ⟨event, hevent, htag⟩ := List.mem_filterMap.mp htag
    rw [← nested_map_snd 0 events] at hevent
    obtain ⟨p, hp, rfl⟩ := List.mem_map.mp hevent
    exact (tagFault?_eq_none_iff tag).mp ((h p hp).2 tag htag hname)

/-- What the events name is what their tags name. -/
theorem flatMap_namedBy (events : List Event) :
    events.flatMap namedBy =
      ((events.filterMap Event.tag?).filter fun tag =>
        isOutline tag.name).filterMap feedUrl? := by
  induction events with
  | nil => rfl
  | cons event events ih =>
      rw [List.flatMap_cons, ih, namedBy, outline?]
      cases htag : event.tag? with
      | none => rw [List.filterMap_cons_none htag]; rfl
      | some tag =>
          rw [List.filterMap_cons_some htag]
          by_cases hname : isOutline tag.name
          · simp only [List.filter_cons, Option.filter_some, hname, if_true,
              Option.bind_some]
            cases hurl : feedUrl? tag with
            | none => rw [List.filterMap_cons_none hurl]; rfl
            | some url => rw [List.filterMap_cons_some hurl]; rfl
          · simp only [List.filter_cons, Option.filter_some, hname]
            rfl

/-! ## Runs -/

/-- A run comes to its end if no event ends it. -/
theorem State.run_eq_none_iff (s : State) :
    (s.run events).2 = none ↔
      ∀ p ∈ nested s.depth events, faultAt? p.1 p.2 = none := by
  induction events generalizing s with
  | nil => simp [State.run, nested]
  | cons event events ih =>
      obtain ⟨hfault, hdepth, -⟩ := s.step_cases event
      rw [nested, List.forall_mem_cons, ← hfault, ← hdepth, ← ih]
      rcases hstep : s.step event with ⟨t, _ | fault⟩
      · simp only [State.run, hstep, true_and]
      · simp only [State.run, hstep, reduceCtorEq, false_and]

/-- A run that comes to its end finds what its events name. -/
theorem State.Holds.run {s : State} {found : List String} (h : s.Holds found)
    (hend : (s.run events).2 = none) :
    (s.run events).1.Holds (found ++ events.flatMap namedBy) := by
  induction events generalizing s found with
  | nil =>
      rw [List.flatMap_nil, List.append_nil]
      exact h
  | cons event events ih =>
      obtain ⟨hfault, -, hholds⟩ := s.step_cases event
      rcases hstep : s.step event with ⟨t, _ | fault⟩
      · rw [hstep] at hfault hholds
        simp only [State.run, hstep] at hend ⊢
        rw [List.flatMap_cons, ← List.append_assoc]
        exact ih (hholds found h hfault.symm) hend
      · simp only [State.run, hstep] at hend
        cases hend

/-! ## Documents -/

/-- Reading succeeds exactly if the document has no fault as markup and its
events are readable. -/
theorem readTranscript_eq_ok_iff (t : Transcript) :
    (∃ urls, (readTranscript t).1 = .ok urls) ↔
      t.fault = none ∧ Readable t.events := by
  have hend : (State.start.run t.events).2 = none ↔
      ∀ p ∈ nested 0 t.events, faultAt? p.1 p.2 = none :=
    State.start.run_eq_none_iff
  rw [readable_iff, ← hend]
  unfold readTranscript
  split
  next s fault hrun => simp [hrun]
  next s hrun =>
      cases t.fault with
      | none => simp [hrun]
      | some fault => simp

theorem eq_listed_of_readTranscript {t : Transcript} {urls : List String}
    (h : (readTranscript t).1 = .ok urls) :
    urls = listed (t.events.filterMap Event.tag?) := by
  have hstart : State.start.Holds [] := rfl
  unfold readTranscript at h
  split at h
  next => cases h
  next s hrun =>
      split at h
      next => cases h
      next =>
          obtain rfl := Except.ok.inj h
          have hholds : (State.start.run t.events).1.Holds
              ([] ++ t.events.flatMap namedBy) := hstart.run (by rw [hrun])
          rw [hrun, List.nil_append, flatMap_namedBy] at hholds
          exact hholds

/-- A feed that is listed is trimmed, and its URL can be read. -/
theorem feedUrl?_eq_some {tag : Tag} {url : String}
    (h : feedUrl? tag = some url) :
    trim url = url ∧ ∃ target, Url.readFeedUrl url = .ok target := by
  unfold feedUrl? at h
  split at h
  next link hlink =>
      split at h
      next hok =>
          obtain rfl := Option.some.inj h
          constructor
          · obtain ⟨raw, -, hraw⟩ := Option.map_eq_some_iff.mp hlink
            cases hresolve : resolve raw with
            | error fault =>
                rw [hresolve] at hraw
                cases hraw
            | ok text =>
                rw [hresolve] at hraw
                obtain rfl := Except.ok.inj hraw
                exact trim_trim _
          · cases hread : Url.readFeedUrl link with
            | error fault =>
                rw [hread] at hok
                cases hok
            | ok target => exact ⟨target, rfl⟩
      next => cases h
  next => cases h

/-- Where the reading of a document comes to its end, it gives the feeds that
the tags of all elements name, in document order and each one once. -/
theorem lists_feeds_of_tags (content : String) (urls : List String)
    (h : (read content).1 = .ok urls) :
    let t := Xml.read content.toList
    let tags := t.events.filterMap Event.tag?
    t.fault = none ∧
      tags = (elementsIn [] (Node.ofEvents (t.events.map .ok))).map (·.tag) ∧
      urls = listed tags ∧ urls.Nodup ∧
      ∀ url ∈ urls, trim url = url ∧
        ∃ target, Url.readFeedUrl url = .ok target := by
  intro t tags
  obtain ⟨hfault, -⟩ := (readTranscript_eq_ok_iff t).mp ⟨urls, h⟩
  have hlisted : urls = listed tags := eq_listed_of_readTranscript h
  refine ⟨hfault, (tagsIn_ofEvents t.events).symm, hlisted, ?_, ?_⟩
  · rw [hlisted]
    exact nodup_eraseDups _
  · intro url hurl
    rw [hlisted, listed, List.mem_eraseDups] at hurl
    obtain ⟨tag, -, htag⟩ := List.mem_filterMap.mp hurl
    exact feedUrl?_eq_some htag

/-- A feed stands in a folder and another element, one has another scheme, one
follows a malformed attribute and is repeated in its tag, and the first one
comes again in other words. -/
theorem lists_feeds_of_tags_with_repetitions :
    let content :=
      "<opml><outline text='a'><item><outline xmlUrl=' http://a.test/?x&amp;y '/>"
        ++ "</item></outline><outline xmlUrl='ftp://b.test/'/>"
        ++ "<outline bad xmlUrl='http://c.test/' xmlUrl='http://d.test/'>e"
        ++ "</outline><outline xmlUrl='http://a.test/?x&#38;y'/></opml>"
    let urls := ["http://a.test/?x&y", "http://c.test/"]
    let t := Xml.read content.toList
    let tags := t.events.filterMap Event.tag?
    (read content).1 = .ok urls ∧ t.fault = none ∧
      tags = (elementsIn [] (Node.ofEvents (t.events.map .ok))).map (·.tag) ∧
      urls = listed tags ∧ urls.Nodup ∧
      ∀ url ∈ urls, trim url = url ∧
        ∃ target, Url.readFeedUrl url = .ok target := by
  intro content urls t tags
  have hread : (read content).1 = .ok urls := by decide +kernel
  exact ⟨hread, lists_feeds_of_tags content urls hread⟩

end Newsstand.Outline
