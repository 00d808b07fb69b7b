import Newsstand.Aggregator.Basic
import Newsstand.Proofs.Feed.Acceptance
import Newsstand.Proofs.Outline.Listing
import Newsstand.Proofs.Xml.Continuation

/-!
# Truncated outline documents

The reading of an outline document does not look at what is open where the
document ends.  A document that was cut off is read like the one in which the
end tags stand that are missing, so the feeds before the cut are subscribed to;
this goes wrong only where a tag or a URL before the cut is at fault.
-/

namespace Newsstand

namespace Outline

open Newsstand.Xml

/-- End tags change only the number of open elements. -/
theorem State.run_closed (s : State) (names : List (List Char)) :
    ∃ depth, s.run (names.map .closed) = ({ s with depth }, none) := by
  induction names generalizing s with
  | nil => exact ⟨s.depth, rfl⟩
  | cons name names ih =>
      have hstep : s.step (.closed name) =
          ({ s with depth := depthAfter s.depth (.closed name) }, none) :=
        (s.step_of_outline?_eq_none rfl).2
      simp only [List.map_cons, State.run, hstep]
      exact ih _

theorem State.run_append (s : State) (events more : List Event) :
    s.run (events ++ more) =
      match s.run events with
      | (t, none) => t.run more
      | (t, some fault) => (t, some fault) := by
  induction events generalizing s with
  | nil => rfl
  | cons event events ih =>
      simp only [List.cons_append, State.run]
      rcases s.step event with ⟨t, _ | fault⟩
      · exact ih t
      · rfl

/-- End tags behind a document make no difference to the feeds and the log. -/
theorem readTranscript_append_closed (events : List Event)
    (names : List (List Char)) :
    readTranscript ⟨events ++ names.map .closed, none⟩ =
      readTranscript ⟨events, none⟩ := by
  simp only [readTranscript, State.run_append]
  rcases State.start.run events with ⟨s, _ | fault⟩
  · obtain ⟨depth, hclosed⟩ := s.run_closed names
    simp only [hclosed]
  · rfl

/-- A document without a fault is read like the one in which all elements are
closed. -/
theorem read_completed {content : String}
    (hfault : (Xml.read content.toList).fault = none)
    (hclosable : ∀ name ∈ openBehind (Xml.read content.toList).events,
      Closable name) :
    read (content ++
        String.ofList (endTags (openBehind (Xml.read content.toList).events))) =
      read content := by
  rw [read, read, String.toList_append, String.toList_ofList,
    Xml.read_completed hfault hclosable, readTranscript_append_closed,
    ← hfault]

end Outline

namespace Aggregator

open Newsstand.Xml

/-- An import does with the text of a file what the reading of this text
says. -/
theorem importOutline_congr (a : Aggregator) (user : String)
    {file other : FileRead} {text otherText : String}
    (hfile : FileRead.text file = .ok text)
    (hother : FileRead.text other = .ok otherText)
    (hread : Outline.read text = Outline.read otherText) :
    a.importOutline user file = a.importOutline user other := by
  simp only [importOutline, readOutline, hfile, hother, hread]

theorem importOutline_of_read (a : Aggregator) (user : String)
    {file : FileRead} {text : String} {urls : List String}
    (hfile : FileRead.text file = .ok text)
    (hread : (Outline.read text).1 = .ok urls) :
    (a.importOutline user file).1 =
        .ok ⟨urls.length, (a.subscribeAll user urls).1⟩ ∧
      (a.importOutline user file).2.1 = (a.subscribeAll user urls).2.1 := by
  rcases hlogged : Outline.read text with ⟨result, log⟩
  rw [hlogged] at hread
  obtain rfl : result = .ok urls := hread
  simp only [importOutline, readOutline, hfile, hlogged, Except.mapError,
    and_self]

end Aggregator

namespace Outline

open Newsstand.Xml

/-- Whether elements are open at the end of a document makes no difference, other
than for the scan of feed documents.  Unless one of its tags or URLs is at fault
the document is read to the end, and an import subscribes to the feeds that it
lists.  So it does with the document in which all elements are closed. -/
theorem reads_cut_as_completed (a : Aggregator) (user content : String)
    (hfault : (Xml.read content.toList).fault = none) :
    let events := (Xml.read content.toList).events
    let names := openBehind events
    let feeds := listed (events.filterMap Event.tag?)
    let completed := content ++ String.ofList (endTags names)
    (names ≠ [] → ¬∃ scanned, Feed.scanDocument content.toList = .ok scanned) ∧
      ((∃ urls, (read content).1 = .ok urls) ↔ Readable events) ∧
      (Readable events → ∀ file, FileRead.text file = .ok content →
        (a.importOutline user file).1 =
            .ok ⟨feeds.length, (a.subscribeAll user feeds).1⟩ ∧
          (a.importOutline user file).2.1 =
            (a.subscribeAll user feeds).2.1) ∧
      ((∀ name ∈ names, Closable name) →
        Xml.read completed.toList = ⟨events ++ names.map .closed, none⟩ ∧
          openBehind (Xml.read completed.toList).events = [] ∧
          read completed = read content ∧
          ∀ file other, FileRead.text file = .ok content →
            FileRead.text other = .ok completed →
            a.importOutline user other = a.importOutline user file) := by
  intro events names feeds completed
  have hok : (∃ urls, (read content).1 = .ok urls) ↔ Readable events := by
    rw [read, readTranscript_eq_ok_iff, and_iff_right hfault]
  refine ⟨fun hopen => ?_, hok, ?_, fun hclosable => ?_⟩
  · rw [Feed.scanDocument_iff_acceptable]
    intro h
    have hlength := length_openBehind events
    rw [h.closed] at hlength
    exact hopen (List.eq_nil_of_length_eq_zero hlength)
  · intro hreadable file hfile
    obtain ⟨urls, hurls⟩ := hok.mpr hreadable
    obtain rfl : urls = feeds := eq_listed_of_readTranscript hurls
    exact a.importOutline_of_read user hfile hurls
  · have hread : read completed = read content := read_completed hfault hclosable
    have hevents : Xml.read completed.toList =
        ⟨events ++ names.map .closed, none⟩ := by
      rw [String.toList_append, String.toList_ofList]
      exact Xml.read_completed hfault hclosable
    refine ⟨hevents, ?_, hread, fun file other hfile hother => ?_⟩
    · rw [hevents]
      exact openBehind_append_closed events
    · exact a.importOutline_congr user hother hfile hread

/-- Two elements are open where the document ends.  The user is subscribed to the
feed before the cut, as with the whole document. -/
theorem reads_cut_as_completed_behind_feed :
    let content :=
      "<opml version='2.0'><body><outline xmlUrl='https://a.test/rss'/>"
    let completed := content ++ "</body></opml>"
    let names := ["body".toList, "opml".toList]
    let feeds := ["https://a.test/rss"]
    let opened := (Storage.start ⟨[]⟩).openVolatile
    let fetcher := Fetcher.ofConfig {} {} (.scripted [])
    let a : Aggregator := ⟨opened.2, opened.1, fetcher⟩
    let file : FileRead := .ok content.toUTF8.toList
    let b := (a.importOutline "ann" file).2.1
    openBehind (Xml.read content.toList).events = names ∧
      (read content).1 = .ok feeds ∧
      (¬∃ scanned, Feed.scanDocument content.toList = .ok scanned) ∧
      (a.importOutline "ann" file).1 = .ok ⟨1, 1⟩ ∧
      b = (a.subscribeAll "ann" feeds).2.1 ∧
      a.urls "ann" = .ok [] ∧ b.urls "ann" = .ok feeds ∧
      read completed = read content := by
  intro content completed names feeds opened fetcher a file b
  have hfault : (Xml.read content.toList).fault = none := by decide +kernel
  have hnames : openBehind (Xml.read content.toList).events = names := by
    decide +kernel
  have hread : (read content).1 = .ok feeds := by decide +kernel
  have hfeeds : listed ((Xml.read content.toList).events.filterMap Event.tag?) =
      feeds := by decide +kernel
  have hfile : FileRead.text file = .ok content := by decide +kernel
  have hclosable : ∀ name ∈ names, Closable name := by decide +kernel
  have hsubscribed : (a.subscribeAll "ann" feeds).1 = 1 := by decide +kernel
  obtain ⟨hrefused, hok, himport, hcompleted⟩ :=
    reads_cut_as_completed a "ann" content hfault
  rw [hnames] at hrefused hcompleted
  rw [hfeeds] at himport
  obtain ⟨hsummary, hstate⟩ := himport (hok.mp ⟨feeds, hread⟩) file hfile
  rw [hsubscribed] at hsummary
  obtain ⟨-, -, hsame, -⟩ := hcompleted hclosable
  have hb : b = (a.subscribeAll "ann" feeds).2.1 := hstate
  have hurls : b.urls "ann" = .ok feeds := by
    rw [hb]
    decide +kernel
  exact ⟨hnames, hread, hrefused (List.cons_ne_nil _ _), hsummary, hb,
    by decide +kernel, hurls, hsame⟩

end Outline

end Newsstand
