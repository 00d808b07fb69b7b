import Newsstand.Proofs.Feed.Acceptance
import Newsstand.Proofs.Feed.Discipline
import Newsstand.Proofs.Outline.Depth
import Newsstand.Proofs.Outline.Truncation
import Newsstand.Proofs.Xml.Expansion

/-!
# Self-closing tags

An element without content is read alike whether it is written as a self-closing
tag or as a start tag with its end tag.  The two forms differ where as many
elements are open as may be: a self-closing tag opens none, so it is let through
at any depth.
-/

namespace Newsstand

open Newsstand.Xml

namespace Feed

/-- A start tag with an end tag does what a self-closing tag does as long as one
more element may open. -/
theorem Scan.run_opened_closed {s : Scan} (h : s.depth < maxDepth) (tag : Tag)
    (name : List Char) (more : List Event) :
    s.run (.opened tag :: .closed name :: more) =
      s.run (.single tag :: more) := by
  cases hroot : s.rootClosed with
  | true => simp [run, step, hroot]
  | false =>
      have hopened : s.step (.opened tag) = .ok (s.enter tag) :=
        step_eq_ok_iff.mpr (.opened hroot h)
      have hclosed : (s.enter tag).step (.closed name) =
          .ok (s.enter tag).exit :=
        step_eq_ok_iff.mpr (.closed (Nat.succ_ne_zero _))
      have hsingle : s.step (.single tag) = .ok (s.visit tag) :=
        step_eq_ok_iff.mpr (.single hroot)
      simp only [run, hopened, hclosed, hsingle, visit_eq]

theorem scanTranscript_opened_closed {past : List Event}
    (h : levelBehind 0 past < maxDepth) (tag : Tag) (name : List Char)
    (more : List Event) (fault : Option Xml.Fault) :
    scanTranscript ⟨past ++ .opened tag :: .closed name :: more, fault⟩ =
      scanTranscript ⟨past ++ .single tag :: more, fault⟩ := by
  have hrun : Scan.start.run (past ++ .opened tag :: .closed name :: more) =
      Scan.start.run (past ++ .single tag :: more) := by
    rw [Scan.run_append, Scan.run_append]
    cases hpast : Scan.start.run past with
    | error fault => rfl
    | ok s =>
        obtain ⟨-, hdepth, -⟩ := Scan.run_ends Scan.rooted_start hpast
        exact Scan.run_opened_closed (hdepth ▸ h) tag name more
  simp only [scanTranscript, hrun]

/-- A start tag is not let through where as many elements are open as may be. -/
theorem scanTranscript_of_deep {past : List Event}
    (h : maxDepth ≤ levelBehind 0 past) (tag : Tag) (more : List Event)
    (fault : Option Xml.Fault) :
    ¬∃ scanned, scanTranscript ⟨past ++ .opened tag :: more, fault⟩ =
      .ok scanned := by
  rintro ⟨scanned, hscan⟩
  unfold scanTranscript at hscan
  split at hscan
  next => cases hscan
  next u hrun =>
      obtain ⟨s, hpast, hopen⟩ := Scan.run_append_eq_ok hrun
      obtain ⟨t, hstep, -⟩ := Scan.run_cons_eq_ok hopen
      obtain ⟨-, hdepth, -⟩ := Scan.run_ends Scan.rooted_start hpast
      have hroom : s.depth < maxDepth := hstep.fits
      rw [hdepth] at hroom
      exact Nat.not_lt.mpr h hroom

end Feed

namespace Outline

/-- The attributes of a tag are read alike whatever the depth. -/
theorem State.readTag_withDepth (s : State) (tag : Tag) (depth : ℕ) :
    ({ s with depth } : State).readTag tag =
      ({ (s.readTag tag).1 with depth }, (s.readTag tag).2) := by
  unfold State.readTag
  dsimp only
  split
  next => rfl
  next => rfl
  next =>
      unfold State.addUrl
      dsimp only
      split
      next => rfl
      next => split <;> rfl

/-- A start tag with its end tag does what a self-closing tag does as long as
one more `outline` element may open, but for the count where the reading ends at
the tag. -/
theorem State.run_opened_closed {s : State} {tag : Tag}
    (h : isOutline tag.name → s.depth < maxDepth) (more : List Event) :
    ∃ depth, s.run (.opened tag :: .closed tag.name :: more) =
      ({ (s.run (.single tag :: more)).1 with depth },
        (s.run (.single tag :: more)).2) := by
  by_cases hname : isOutline tag.name
  · have hroom : ¬maxDepth < s.depth + 1 := by
      have hdepth := h hname
      omega
    have hopened : s.step (.opened tag) =
        ({ (s.readTag tag).1 with depth := s.depth + 1 },
          (s.readTag tag).2) := by
      simp only [State.step, if_pos hname, if_neg hroom, State.readTag_withDepth]
    have hsingle : s.step (.single tag) = s.readTag tag := if_pos hname
    obtain ⟨-, hdepth, -⟩ := s.readTag_cases tag
    rcases hread : s.readTag tag with ⟨t, _ | fault⟩
    · refine ⟨(t.run more).1.depth, ?_⟩
      rw [hread] at hopened hsingle hdepth
      have hclosed : ({ t with depth := s.depth + 1 } : State).step
          (.closed tag.name) = (t, none) := by
        simp only [State.step, if_pos hname, Nat.add_sub_cancel, ← hdepth]
      simp only [State.run, hopened, hclosed, hsingle]
    · refine ⟨s.depth + 1, ?_⟩
      rw [hread] at hopened hsingle
      simp only [State.run, hopened, hsingle]
  · refine ⟨(s.run more).1.depth, ?_⟩
    simp only [State.run, State.step, if_neg hname]

theorem readTranscript_opened_closed {past : List Event} {tag : Tag}
    (h : isOutline tag.name → past.foldl depthAfter 0 < maxDepth)
    (more : List Event) (fault : Option Xml.Fault) :
    readTranscript ⟨past ++ .opened tag :: .closed tag.name :: more, fault⟩ =
      readTranscript ⟨past ++ .single tag :: more, fault⟩ := by
  simp only [readTranscript, State.run_append]
  rcases hpast : State.start.run past with ⟨s, _ | fault⟩
  · have hdepth : s.depth = past.foldl depthAfter 0 := by
      have hrun := State.depth_run (congrArg Prod.snd hpast)
      rwa [hpast] at hrun
    obtain ⟨depth, hrun⟩ :=
      State.run_opened_closed (fun hname => hdepth ▸ h hname) more
    simp only [hrun]
    rcases s.run (.single tag :: more) with ⟨t, _ | fault⟩ <;> rfl
  · rfl

/-- The start tag of an `outline` element is not let through where as many of
them are open as may be. -/
theorem readTranscript_of_deep {past : List Event} {tag : Tag}
    (hname : isOutline tag.name) (h : maxDepth ≤ past.foldl depthAfter 0)
    (more : List Event) (fault : Option Xml.Fault) :
    ¬∃ urls, (readTranscript ⟨past ++ .opened tag :: more, fault⟩).1 =
      .ok urls := by
  rw [readTranscript_eq_ok_iff]
  rintro ⟨-, hreadable⟩
  refine Nat.not_lt.mpr h (hreadable.shallow _ tag ?_ hname)
  rw [nested_append]
  exact List.mem_append_right _ List.mem_cons_self

end Outline

namespace Documents

open Newsstand.Outline (isOutline openOutlines)

/-- A self-closing tag of a document can be written in full, unless a slash at
the end of its attributes or a quote in its name stands in the way.  What the
scan and the reading of outlines make of the document remains the same, faults
and log included, as long as one more element may open where the tag stands.
Where none may, the tag in full is not let through. -/
theorem reads_selfClosing_in_full {doc : List Char} {events more : List Event}
    {tag : Tag} (hread : (Xml.read doc).events = events ++ .single tag :: more)
    (hslash : tag.content.getLast? ≠ some '/') (hname : Closable tag.name) :
    ∃ before after,
      doc = before ++ '<' :: (tag.content ++ '/' :: '>' :: after) ∧
      Xml.read before = ⟨events, none⟩ ∧
      let full := before ++ (tag.around [] ++ after)
      Xml.read full =
          ⟨events ++ .opened tag :: .closed tag.name :: more,
            (Xml.read doc).fault⟩ ∧
        ((openBehind events).length < Feed.maxDepth →
          Feed.scanDocument full = Feed.scanDocument doc) ∧
        (Feed.maxDepth ≤ (openBehind events).length →
          ¬∃ scanned, Feed.scanDocument full = .ok scanned) ∧
        ((isOutline tag.name → openOutlines events < Outline.maxDepth) →
          Outline.read (String.ofList full) =
            Outline.read (String.ofList doc)) ∧
        (isOutline tag.name → Outline.maxDepth ≤ openOutlines events →
          ¬∃ urls, (Outline.read (String.ofList full)).1 = .ok urls) := by
  obtain ⟨before, after, hdoc, hbefore, hfull⟩ :=
    exists_read_around hread hslash hname
  have hlevel := length_openBehind events
  have hcount : openOutlines events = events.foldl Outline.depthAfter 0 := by
    have hopen := Outline.openOutlines_read before
    rwa [hbefore] at hopen
  have hwhole : Xml.read doc =
      ⟨events ++ .single tag :: more, (Xml.read doc).fault⟩ := by
    rw [← hread]
  refine ⟨before, after, hdoc, hbefore, hfull, ?_, ?_, ?_, ?_⟩
  · intro hroom
    rw [Feed.scanDocument, Feed.scanDocument, hfull, hwhole]
    exact Feed.scanTranscript_opened_closed (hlevel ▸ hroom) _ _ _ _
  · intro hdeep
    rw [Feed.scanDocument, hfull]
    exact Feed.scanTranscript_of_deep (hlevel ▸ hdeep) _ _ _
  · intro hroom
    rw [hcount] at hroom
    rw [Outline.read, Outline.read, String.toList_ofList, String.toList_ofList,
      hfull, hwhole]
    exact Outline.readTranscript_opened_closed hroom _ _
  · intro houtline hdeep
    rw [hcount] at hdeep
    rw [Outline.read, String.toList_ofList, hfull]
    exact Outline.readTranscript_of_deep houtline hdeep _ _

/-- The tag of a feed in the root element. -/
theorem reads_selfClosing_in_full_below_root :
    let doc := "<rss><outline xmlUrl='http://a.test/'/></rss>".toList
    let tag : Tag := ⟨"outline xmlUrl='http://a.test/'".toList⟩
    ∃ before after,
      doc = before ++ '<' :: (tag.content ++ '/' :: '>' :: after) ∧
      let full := before ++ (tag.around [] ++ after)
      Feed.scanDocument full = .ok ⟨"rss".toList, none, []⟩ ∧
        (Outline.read (String.ofList full)).1 = .ok ["http://a.test/"] := by
  intro doc tag
  have hread : (Xml.read doc).events =
      [.opened ⟨"rss".toList⟩] ++ .single tag :: [.closed "rss".toList] := by
    decide +kernel
  have hscan : Feed.scanDocument doc = .ok ⟨"rss".toList, none, []⟩ := by
    decide +kernel
  have hurls : (Outline.read (String.ofList doc)).1 = .ok ["http://a.test/"] := by
    decide +kernel
  obtain ⟨before, after, hdoc, -, -, hsame, -, halike, -⟩ :=
    reads_selfClosing_in_full hread (by decide +kernel) (by decide +kernel)
  refine ⟨before, after, hdoc, ?_, ?_⟩
  · rw [hsame (by decide +kernel), hscan]
  · rw [halike (by decide +kernel), hurls]

/-- Within fifty `outline` elements or 256 elements of any kind only the
self-closing tag is let through.  A slash at the end of the attributes makes what
should be a start tag self-closing, and a quote in the name hides the bracket of
the end tag. -/
theorem selfClosing_differs_from_full :
    let outline : Tag := ⟨"outline".toList⟩
    let feed : Tag := ⟨"outline xmlUrl='http://a.test/'".toList⟩
    let x : Tag := ⟨['x']⟩
    let selfClosing (tag : Tag) := '<' :: (tag.content ++ ['/', '>'])
    let urls (cs : List Char) := (Outline.read (String.ofList cs)).1
    let scan (text : String) := Feed.scanDocument text.toList
    urls (outline.around^[50] (selfClosing feed)) = .ok ["http://a.test/"] ∧
      urls (outline.around^[50] (feed.around [])) = .error (.tooDeep 50) ∧
      Feed.scanDocument (x.around^[256] (selfClosing x)) =
        .ok ⟨['x'], none, []⟩ ∧
      Feed.scanDocument (x.around^[256] (x.around [])) =
        .error (.tooDeep 256) ∧
      scan "<a b//>" = .ok ⟨['a'], none, []⟩ ∧
      scan "<a b/></a>" = .error (.markup (.unmatchedEnd "a")) ∧
      scan "<a'b c'/>" = .ok ⟨"a'b".toList, none, []⟩ ∧
      scan "<a'b c'></a'b>" = .error (.markup .unclosedTag) := by
  intro outline feed x selfClosing urls scan
  have houtline : outline.Plain := ⟨fun _ => rfl, rfl⟩
  have hfeed : feed.Plain := ⟨fun _ => rfl, rfl⟩
  have hx : x.Plain := ⟨fun _ => rfl, rfl⟩
  have hurls {cs : List Char} {events : List Event} (h : ReadsAs cs events)
      (hbegins : BeginsMarkup cs) :
      urls (outline.around^[50] cs) =
        (Outline.readTranscript ⟨outline.enclose^[50] events, none⟩).1 := by
    have hread := (h.nest houtline 50).read_eq
      (outline.beginsMarkup_nest hbegins 50)
    simp only [urls, Outline.read, String.toList_ofList, hread]
  have hscan {cs : List Char} {events : List Event} (h : ReadsAs cs events)
      (hbegins : BeginsMarkup cs) :
      Feed.scanDocument (x.around^[256] cs) =
        Feed.scanTranscript ⟨x.enclose^[256] events, none⟩ := by
    have hread := (h.nest hx 256).read_eq (x.beginsMarkup_nest hbegins 256)
    rw [Feed.scanDocument, hread]
  refine ⟨?_, ?_, ?_, ?_, ?_⟩
  · rw [hurls (.single fun _ => rfl) (beginsMarkup_cons _)]
    decide +kernel
  · rw [hurls (.around .nil hfeed) (feed.beginsMarkup_around [])]
    decide +kernel
  · rw [hscan (.single fun _ => rfl) (beginsMarkup_cons _)]
    decide +kernel
  · rw [hscan (.around .nil hx) (x.beginsMarkup_around [])]
    decide +kernel
  · decide +kernel

end Documents

end Newsstand
