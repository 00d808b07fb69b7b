import Newsstand.Proofs.Feed.Influence
import Newsstand.Proofs.Outline.Truncation
import Newsstand.Proofs.Xml.Place

/-!
# Document type declarations

A document type declaration has no influence on what is read of a document,
whatever it declares.  An entity that it declares is no more known than one that
is nowhere declared.
-/

namespace Newsstand

open Newsstand.Xml

namespace Outline

/-- A declaration is passed over. -/
theorem readTranscript_doctype (past more : List Event) (b c : List Char)
    (fault : Option Xml.Fault) :
    readTranscript ⟨past ++ .doctype b :: more, fault⟩ =
      readTranscript ⟨past ++ .doctype c :: more, fault⟩ := by
  simp only [readTranscript, State.run_append, State.run, State.step]

/-- A URL with a reference without a meaning ends the reading. -/
theorem not_read_of_misreferenced {content : String} {tag : Tag}
    {raw : List Char}
    (hmem : tag ∈ (Xml.read content.toList).events.filterMap Event.tag?)
    (hname : isOutline tag.name)
    (hvalue : tag.value? "xmlUrl".toList = some raw)
    (hraw : Misreferenced raw) : ¬∃ urls, (read content).1 = .ok urls := by
  rw [read, readTranscript_eq_ok_iff]
  rintro ⟨-, hreadable⟩
  obtain ⟨text, hresolve⟩ := hreadable.resolved tag hmem hname raw hvalue
  obtain ⟨fault, hfault⟩ := exists_resolve_error_iff.mpr hraw
  rw [hresolve] at hfault
  cases hfault

end Outline

namespace Documents

open Newsstand.Outline (isOutline)

/-- If one document type declaration is exchanged for another one, the same feed
URLs are read, with the same log or for the same fault, the scan yields the same,
and so it is the same feed, if the document is not read as Atom.  An entity that
a declaration declares gets no meaning: referred to in a text it makes the
document count as empty, and referred to in a URL it ends the reading of
outlines. -/
theorem reads_alike_of_doctypes {before first second b c : List Char}
    (hfirst : Stands before first (.doctype b))
    (hsecond : Stands before second (.doctype c)) (after : List Char) :
    let doc := before ++ '<' :: (first ++ after)
    let other := before ++ '<' :: (second ++ after)
    let t := Xml.read doc
    Outline.read (String.ofList other) = Outline.read (String.ofList doc) ∧
      Feed.scanDocument other = Feed.scanDocument doc ∧
      (Feed.ScanDecides t.events → ∀ url body exchanged,
        Feed.stripped body = doc → Feed.stripped exchanged = other →
          (Feed.read url exchanged).1 = (Feed.read url body).1) ∧
      (∀ raw, .text raw ∈ t.events → Misreferenced raw →
        ∀ url body, Feed.stripped body = doc →
          (Feed.read url body).1 = Feed.empty url) ∧
      (∀ tag ∈ t.events.filterMap Event.tag?, isOutline tag.name →
        ∀ raw, tag.value? "xmlUrl".toList = some raw → Misreferenced raw →
          ¬∃ urls, (Outline.read (String.ofList doc)).1 = .ok urls) := by
  intro doc other t
  have hdoc := hfirst.read_eq_of_openAfter (fun _ => rfl) after
  have hother := hsecond.read_eq_of_openAfter (fun _ => rfl) after
  have hscan : Feed.scanDocument other = Feed.scanDocument doc := by
    refine Feed.scanTranscript_congr ?_ ?_
    · rw [hdoc, hother]
      simp [Transcript.behind, Event.bare]
    · rw [hdoc, hother]
      rfl
  refine ⟨?_, hscan, ?_, ?_, ?_⟩
  · rw [Outline.read, Outline.read, String.toList_ofList, String.toList_ofList,
      hdoc, hother]
    simp only [Transcript.behind, List.append_assoc, List.singleton_append]
    exact Outline.readTranscript_doctype _ _ _ _ _
  · intro hdecides url body exchanged hbody hexchanged
    refine Feed.feed_congr url ?_ ?_
    · rw [hbody, hexchanged, hscan]
    · rw [hbody]
      exact hdecides
  · intro raw hmem hraw url body hbody
    refine Feed.feed_of_misreferenced url ?_ hraw
    rw [hbody]
    exact hmem
  · intro tag hmem hname raw hvalue hraw
    refine Outline.not_read_of_misreferenced ?_ hname hvalue hraw
    rw [String.toList_ofList]
    exact hmem

/-- One declaration declares an entity and the other one does not. -/
theorem reads_alike_of_doctypes_with_entity :
    let before := "<?xml?>".toList
    let second := "!DOCTYPE rss [<!ENTITY e 'b'>]>".toList
    let after := "<rss><outline xmlUrl='http://a.test/'/>".toList ++
      "<item><title>a</title></item></rss>".toList
    let expanded := "<rss><outline xmlUrl='&e;'/>&e;<item/></rss>".toList
    let other := String.ofList (before ++ '<' :: (second ++ after))
    let unread := String.ofList (before ++ '<' :: (second ++ expanded))
    (Outline.read other).1 = .ok ["http://a.test/"] ∧
      (Feed.read "u" other).1 = ⟨"u", "a", [⟨"a", "", ""⟩]⟩ ∧
      (Feed.read "u" unread).1 = Feed.empty "u" ∧
      ¬∃ urls, (Outline.read unread).1 = .ok urls := by
  intro before second after expanded other unread
  have hfirst : Stands before "!DOCTYPE rss>".toList (.doctype "rss".toList) :=
    ⟨by decide +kernel, by decide +kernel⟩
  have hsecond : Stands before second
      (.doctype "rss [<!ENTITY e 'b'>]".toList) :=
    ⟨by decide +kernel, by decide +kernel⟩
  have hraw : Misreferenced "&e;".toList :=
    exists_resolve_error_iff.mp ⟨.unrecognized 1 2 "e", by decide +kernel⟩
  have hdoc : (Outline.read (String.ofList
      (before ++ '<' :: ("!DOCTYPE rss>".toList ++ after)))).1 =
        .ok ["http://a.test/"] := by
    decide +kernel
  have hfeed : (Feed.read "u" (String.ofList
      (before ++ '<' :: ("!DOCTYPE rss>".toList ++ after)))).1 =
        ⟨"u", "a", [⟨"a", "", ""⟩]⟩ := by
    decide +kernel
  obtain ⟨houtline, -, hread, -, -⟩ :=
    reads_alike_of_doctypes hfirst hsecond after
  obtain ⟨-, -, -, hempty, hfault⟩ :=
    reads_alike_of_doctypes hsecond hfirst expanded
  refine ⟨?_, ?_, ?_, ?_⟩
  · rw [← hdoc]
    exact congrArg Prod.fst houtline
  · rw [← hfeed]
    exact hread (Or.inl (by decide +kernel)) "u" _ other (by decide +kernel)
      (by decide +kernel)
  · exact hempty "&e;".toList (by decide +kernel) hraw "u" unread
      (by decide +kernel)
  · exact hfault ⟨"outline xmlUrl='&e;'".toList⟩ (by decide +kernel)
      (by decide +kernel) "&e;".toList (by decide +kernel) hraw

end Documents

end Newsstand
