import Newsstand.Proofs.Feed.Extraction
import Newsstand.Proofs.Xml.Order

/-!
# What has an influence on a feed

Of a document the scan looks at the names of its tags and at its text.
Attributes, declarations, comments and instructions have no influence on what it
yields, and neither on the feed unless the document is read as Atom.
-/

namespace Newsstand

open Newsstand.Text Newsstand.Xml

namespace Xml

/-- A tag without its attributes. -/
def Tag.bare (tag : Tag) : Tag :=
  ⟨tag.name⟩

theorem Tag.bare_name (tag : Tag) : tag.bare.name = tag.name :=
  List.takeWhile_idem

theorem Tag.bare_localName (tag : Tag) : tag.bare.localName = tag.localName :=
  congrArg localPart tag.bare_name

/-- An event with tags without attributes and with nothing of what stands in
declarations and instructions. -/
def Event.bare : Event → Event
  | .opened tag => .opened tag.bare
  | .single tag => .single tag.bare
  | .doctype _ => .doctype []
  | .instruction _ => .instruction []
  | event => event

end Xml

namespace Feed

/-! ## The scan -/

namespace Scan

theorem openElement_bare (s : Scan) (tag : Tag) (depth : ℕ) :
    s.openElement tag.bare depth = s.openElement tag depth := by
  have hroot (s : Scan) : s.noteRoot tag.bare = s.noteRoot tag := by
    rw [noteRoot, noteRoot, tag.bare_localName]
  have htitle (s : Scan) :
      s.captureTitle tag.bare depth = s.captureTitle tag depth := by
    rw [captureTitle, captureTitle, tag.bare_name]
  have hitem (s : Scan) :
      s.captureItem tag.bare depth = s.captureItem tag depth := by
    rw [captureItem, captureItem, tag.bare_name]
  rw [openElement, openElement, hroot, htitle, hitem]

theorem step_bare (s : Scan) (event : Event) :
    s.step event.bare = s.step event := by
  cases event <;> simp only [Event.bare, step, openElement_bare]

theorem run_bare (s : Scan) (events : List Event) :
    s.run (events.map Event.bare) = s.run events := by
  induction events generalizing s with
  | nil => rfl
  | cons event events ih =>
      simp only [List.map_cons, run, step_bare]
      cases s.step event with
      | error fault => rfl
      | ok t => exact ih t

end Scan

/-- The scan looks at the bare events only. -/
theorem scanTranscript_congr {t u : Transcript}
    (hevents : t.events.map Event.bare = u.events.map Event.bare)
    (hfault : t.fault = u.fault) : scanTranscript t = scanTranscript u := by
  have hrun : Scan.start.run t.events = Scan.start.run u.events := by
    rw [← Scan.run_bare, hevents, Scan.run_bare]
  simp only [scanTranscript, hrun, hfault]

/-! ## The feed -/

/-- A document is not read as Atom: its root element is not called `feed`, or
there is an item in it. -/
def ScanDecides (events : List Event) : Prop :=
  ((events.filterMap Event.tag?).head?.map Tag.localName ≠
      some "feed".toList) ∨
    ∃ tag ∈ events.filterMap Event.tag?, tag.name = "item".toList

theorem not_atom_of_scanDecides {cs : List Char} {scanned : Scanned}
    (h : scanDocument cs = .ok scanned)
    (hdecides : ScanDecides (Xml.read cs).events) :
    ¬(scanned.items = [] ∧ scanned.root = "feed".toList) := by
  obtain ⟨hroot, -, hitems⟩ := scanned_eq_of_tree h
  have htags : tagsIn (treeOf cs) = (Xml.read cs).events.filterMap Event.tag? :=
    tagsIn_ofEvents _
  rintro ⟨hnone, hfeed⟩
  rcases hdecides with hname | ⟨tag, hmem, hname⟩
  · refine hname ?_
    rw [← htags, tagsIn, List.head?_map, Option.map_map, ← hfeed, ← hroot]
    rfl
  · rw [hitems, itemsOf, List.map_eq_nil_iff, outermostContents_eq_nil_iff,
      htags] at hnone
    exact hnone tag hmem hname

/-- What the scan yields is the feed, if the document is not read as Atom. -/
theorem read_of_scanned (url : String) {body : String} {scanned : Scanned}
    (h : scanDocument (stripped body) = .ok scanned)
    (hnot : ¬(scanned.items = [] ∧ scanned.root = "feed".toList)) :
    read url body = (⟨url, scanned.title?.getD "", scanned.items⟩, []) := by
  have hblank := not_blank_of_scanned h
  rw [← readBy_atom]
  simp only [readBy, readDocumentBy, h, hblank, if_neg hnot, Bool.false_eq_true,
    if_false]

theorem feed_of_scan_error (url : String) {body : String} {fault : ScanFault}
    (h : scanDocument (stripped body) = .error fault) :
    (read url body).1 = empty url := by
  rw [← readBy_atom, readBy_of_scan_error _ _ h]

/-- Documents that scan alike are read as the same feed, if they are not read as
Atom. -/
theorem feed_congr (url : String) {body other : String}
    (hscan : scanDocument (stripped other) = scanDocument (stripped body))
    (hdecides : ScanDecides (Xml.read (stripped body)).events) :
    (read url other).1 = (read url body).1 := by
  cases hbody : scanDocument (stripped body) with
  | error fault =>
      rw [hbody] at hscan
      rw [feed_of_scan_error url hbody, feed_of_scan_error url hscan]
  | ok scanned =>
      rw [hbody] at hscan
      have hnot := not_atom_of_scanDecides hbody hdecides
      rw [read_of_scanned url hbody hnot, read_of_scanned url hscan hnot]

/-- A reference without a meaning in a text of a document makes it count as
empty. -/
theorem feed_of_misreferenced (url : String) {body : String} {raw : List Char}
    (hmem : .text raw ∈ (Xml.read (stripped body)).events)
    (hraw : Misreferenced raw) : (read url body).1 = empty url := by
  cases hscan : scanDocument (stripped body) with
  | error fault => exact feed_of_scan_error url hscan
  | ok scanned =>
      have hacceptable :=
        (scanDocument_iff_acceptable _).mp ⟨scanned, hscan⟩
      obtain ⟨text, hresolve⟩ := hacceptable.resolved raw hmem
      obtain ⟨fault, hfault⟩ := exists_resolve_error_iff.mpr hraw
      rw [hresolve] at hfault
      cases hfault

/-- A reference without a meaning makes a document count as empty if it stands in
a text, in whatever element that is.  In the value of an attribute it has no
influence: whatever the attributes of its tags are, a document is read as the
same feed, if it is not read as Atom. -/
theorem empties_at_texts_only (url body : String) :
    (∀ raw, .text raw ∈ (Xml.read (stripped body)).events →
        Misreferenced raw → (read url body).1 = empty url) ∧
      (ScanDecides (Xml.read (stripped body)).events → ∀ other,
        (Xml.read (stripped other)).events.map Event.bare =
            (Xml.read (stripped body)).events.map Event.bare →
          (Xml.read (stripped other)).fault =
            (Xml.read (stripped body)).fault →
          (read url other).1 = (read url body).1) := by
  refine ⟨fun raw hmem hraw => feed_of_misreferenced url hmem hraw, ?_⟩
  intro hdecides other hevents hfault
  exact feed_congr url (scanTranscript_congr hevents hfault) hdecides

/-- An undeclared entity stands in the root's tag in one document and in the
title of the item in the other. -/
theorem empties_at_texts_only_of_entity :
    let quoted := "<rss version='&xxe;'><item><title>a</title></item></rss>"
    let bare := "<rss><item><title>a</title></item></rss>"
    let text := "<rss><item><title>&xxe;</title></item></rss>"
    let tag : Tag := ⟨"rss version='&xxe;'".toList⟩
    .opened tag ∈ (Xml.read (stripped quoted)).events ∧
      .ok ⟨"version".toList, "&xxe;".toList⟩ ∈ tag.attributes ∧
      Misreferenced "&xxe;".toList ∧
      (read "u" quoted).1 = (read "u" bare).1 ∧
      (read "u" bare).1 = ⟨"u", "a", [⟨"a", "", ""⟩]⟩ ∧
      (read "u" text).1 = empty "u" := by
  intro quoted bare text tag
  have hmisreferenced : Misreferenced "&xxe;".toList :=
    exists_resolve_error_iff.mp ⟨.unrecognized 1 4 "xxe", by decide +kernel⟩
  obtain ⟨hempty, -⟩ := empties_at_texts_only "u" text
  obtain ⟨-, hsame⟩ := empties_at_texts_only "u" bare
  refine ⟨by decide +kernel, by decide +kernel, hmisreferenced, ?_,
    by decide +kernel, ?_⟩
  · exact hsame (Or.inl (by decide +kernel)) quoted (by decide +kernel)
      (by decide +kernel)
  · exact hempty _ (by decide +kernel) hmisreferenced

end Feed

end Newsstand
