import Newsstand.Feed.Document
import Newsstand.Proofs.Feed.Advance
import Newsstand.Proofs.Xml.Level

/-!
# Which documents are accepted

A document is accepted by the scan exactly if its events could be those of a
well-formed document with one root element: nothing is left open, nothing but
blanks stands beside the root, every reference has a meaning, and the nesting
stays within its bound.  One defect anywhere makes the whole document count as
empty, and it does so before the document is read as Atom.
-/

namespace Newsstand.Feed

open Newsstand.Text Newsstand.Xml

/-- What a reader's transcript must be for the document to be accepted. -/
structure Acceptable (t : Transcript) : Prop where
  faultless : t.fault = none
  resolved : ∀ raw, .text raw ∈ t.events → ∃ text, resolve raw = .ok text
  oneRoot : topCount 0 t.events = 1
  closed : levelBehind 0 t.events = 0
  shallow : ∀ level tag, (level, .opened tag) ∈ levelled 0 t.events →
    level + 1 ≤ 256
  noStrayData : ∀ body, (0, .cdata body) ∉ levelled 0 t.events
  noStrayText : ∀ raw text, (0, .text raw) ∈ levelled 0 t.events →
    resolve raw = .ok text → text.all isBlank

/-! ## Events in their places -/

/-- What an event at a level must be, apart from the number of roots. -/
def FitsAt (level : ℕ) : Event → Prop
  | .opened _ => level < maxDepth
  | .closed _ => level ≠ 0
  | .text raw => ∃ text, resolve raw = .ok text ∧
      (level = 0 → text.all isBlank)
  | .cdata _ => level ≠ 0
  | _ => True

/-- Events that may follow at a level behind so many roots. -/
structure Orderly (roots level : ℕ) (events : List Event) : Prop where
  fits : ∀ p ∈ levelled level events, FitsAt p.1 p.2
  roots_le : roots + topCount level events ≤ 1

theorem orderly_cons_iff {roots level : ℕ} {event : Event}
    {events : List Event} :
    Orderly roots level (event :: events) ↔
      FitsAt level event ∧
        Orderly (roots + (event.beginsTop level).toNat)
          (event.levelAfter level) events := by
  constructor
  · rintro ⟨hfits, hroots⟩
    rw [levelled, List.forall_mem_cons] at hfits
    rw [topCount_cons, ← Nat.add_assoc] at hroots
    exact ⟨hfits.1, hfits.2, hroots⟩
  · rintro ⟨hevent, hfits, hroots⟩
    refine ⟨?_, ?_⟩
    · rw [levelled, List.forall_mem_cons]
      exact ⟨hevent, hfits⟩
    · rwa [topCount_cons, ← Nat.add_assoc]

namespace Scan

/-- The number of roots that have begun, at most one. -/
def roots (s : Scan) : ℕ :=
  if s.depth = 0 ∧ s.rootClosed = false then 0 else 1

/-- Whether the root is closed agrees with the depth, and its name is known as
soon as it has begun. -/
structure Rooted (s : Scan) : Prop where
  depth_eq : s.rootClosed = true → s.depth = 0
  noted : s.root?.isSome ↔ s.roots = 1

theorem rooted_start : start.Rooted :=
  ⟨nofun, by simp [start, roots]⟩

variable {s t : Scan} {event : Event} {events : List Event}

theorem Advance.depth_eq (h : s.Advance event t) :
    t.depth = event.levelAfter s.depth := by
  cases h <;> simp [enter, visit, exit, leave, Event.levelAfter]

theorem Advance.roots_eq (h : s.Advance event t) :
    t.roots = s.roots + (event.beginsTop s.depth).toNat := by
  cases h with
  | opened hroot hdepth =>
      by_cases hzero : s.depth = 0 <;>
        simp [roots, enter, Event.beginsTop, Event.begins, hroot, hzero]
  | single hroot =>
      by_cases hzero : s.depth = 0 <;>
        simp [roots, visit, Event.beginsTop, Event.begins, hroot, hzero]
  | closed hdepth =>
      by_cases hone : s.depth = 1
      · simp [roots, exit, leave, Event.beginsTop, Event.begins, hone]
      · have hleave : s.depth - 1 ≠ 0 := by omega
        simp [roots, exit, leave, Event.beginsTop, Event.begins, hdepth, hleave]
  | text hresolve hdepth => simp [roots, Event.beginsTop, Event.begins]
  | cdata hdepth => simp [roots, Event.beginsTop, Event.begins]
  | _ => simp [Event.beginsTop, Event.begins]

theorem Advance.rooted (hs : s.Rooted) (h : s.Advance event t) :
    t.Rooted := by
  cases h with
  | opened hroot hdepth =>
      exact ⟨by simp [enter, hroot], by simp [enter, roots]⟩
  | single hroot =>
      refine ⟨by simp [visit, hroot], ?_⟩
      by_cases hzero : s.depth = 0 <;> simp [visit, roots, hzero]
  | closed hdepth =>
      have hnot : s.rootClosed = false :=
        Bool.eq_false_iff.mpr fun hclosed => hdepth (hs.depth_eq hclosed)
      have hexit : s.Advance (.closed []) s.exit := .closed hdepth
      have hroots : s.exit.roots = s.roots := by
        rw [hexit.roots_eq]
        simp [Event.beginsTop, Event.begins]
      refine ⟨fun hclosed => ?_, ?_⟩
      · have hone : s.depth = 1 := by simpa [exit, leave, hnot] using hclosed
        simp [exit, leave, hone]
      · rw [hroots]
        simpa [exit, leave] using hs.noted
  | text hresolve hdepth =>
      exact ⟨by simpa using hs.depth_eq, by simpa [roots] using hs.noted⟩
  | cdata hdepth =>
      exact ⟨by simpa using hs.depth_eq, by simpa [roots] using hs.noted⟩
  | _ => exact hs

theorem Advance.fits (h : s.Advance event t) : FitsAt s.depth event := by
  cases h with
  | opened hroot hdepth => exact hdepth
  | single hroot => trivial
  | closed hdepth => exact hdepth
  | blank hresolve hdepth hblank => exact ⟨_, hresolve, fun _ => hblank⟩
  | text hresolve hdepth =>
      exact ⟨_, hresolve, fun hzero => absurd hzero hdepth⟩
  | cdata hdepth => exact hdepth
  | _ => trivial

/-- An element may begin as long as it is not the second root. -/
theorem Rooted.rootClosed_eq_false (hs : s.Rooted)
    (hroots : s.roots + (s.depth == 0).toNat ≤ 1) : s.rootClosed = false := by
  refine Bool.eq_false_iff.mpr fun hclosed => ?_
  simp [roots, hs.depth_eq hclosed, hclosed] at hroots

theorem Rooted.exists_advance (hs : s.Rooted) (hfits : FitsAt s.depth event)
    (hroots : s.roots + (event.beginsTop s.depth).toNat ≤ 1) :
    ∃ t, s.Advance event t := by
  cases event with
  | opened tag =>
      refine ⟨_, .opened (hs.rootClosed_eq_false ?_) hfits⟩
      simpa [Event.beginsTop, Event.begins] using hroots
  | single tag =>
      refine ⟨_, .single (hs.rootClosed_eq_false ?_)⟩
      simpa [Event.beginsTop, Event.begins] using hroots
  | closed name => exact ⟨_, .closed hfits⟩
  | text raw =>
      obtain ⟨text, hresolve, hblank⟩ := hfits
      by_cases hdepth : s.depth = 0
      · exact ⟨_, .blank hresolve hdepth (hblank hdepth)⟩
      · exact ⟨_, .text hresolve hdepth⟩
  | cdata body => exact ⟨_, .cdata hfits⟩
  | doctype body => exact ⟨_, .doctype⟩
  | comment => exact ⟨_, .comment⟩
  | instruction content => exact ⟨_, .instruction⟩

theorem roots_le (s : Scan) : s.roots ≤ 1 := by
  unfold roots
  split <;> omega

/-- A run comes to its end exactly if the events are orderly where it starts. -/
theorem exists_run_iff (hs : s.Rooted) :
    (∃ t, s.run events = .ok t) ↔ Orderly s.roots s.depth events := by
  induction events generalizing s with
  | nil =>
      refine iff_of_true ⟨s, rfl⟩ ⟨by simp [levelled], ?_⟩
      exact s.roots_le
  | cons event events ih =>
      rw [orderly_cons_iff]
      constructor
      · rintro ⟨u, hrun⟩
        obtain ⟨t, hstep, hrest⟩ := run_cons_eq_ok hrun
        refine ⟨hstep.fits, ?_⟩
        rw [← hstep.roots_eq, ← hstep.depth_eq]
        exact (ih (hstep.rooted hs)).mp ⟨u, hrest⟩
      · rintro ⟨hfits, horderly⟩
        have hroots := horderly.roots_le
        obtain ⟨t, hstep⟩ := hs.exists_advance hfits (by omega)
        rw [← hstep.roots_eq, ← hstep.depth_eq] at horderly
        obtain ⟨u, hrest⟩ := (ih (hstep.rooted hs)).mpr horderly
        exact ⟨u, by simp only [run, step_eq_ok_iff.mpr hstep, hrest]⟩

/-- Where a run ends, and how many roots it has seen. -/
theorem run_ends (hs : s.Rooted) (hrun : s.run events = .ok t) :
    t.Rooted ∧ t.depth = levelBehind s.depth events ∧
      t.roots = s.roots + topCount s.depth events := by
  induction events generalizing s with
  | nil =>
      cases hrun
      exact ⟨hs, rfl, rfl⟩
  | cons event events ih =>
      obtain ⟨next, hstep, hrest⟩ := run_cons_eq_ok hrun
      obtain ⟨hrooted, hdepth, hroots⟩ := ih (hstep.rooted hs) hrest
      refine ⟨hrooted, ?_, ?_⟩
      · rw [hdepth, hstep.depth_eq]
        rfl
      · rw [hroots, hstep.roots_eq, hstep.depth_eq, topCount_cons,
          Nat.add_assoc]

/-- The yield of a scan behind the last event needs a root that is closed. -/
theorem exists_finish_iff (hs : s.Rooted) :
    (∃ scanned, s.finish = .ok scanned) ↔ s.depth = 0 ∧ s.roots = 1 := by
  rw [← hs.noted]
  unfold finish
  by_cases hdepth : s.depth = 0
  · cases s.root? <;> simp [hdepth]
  · simp [hdepth]

end Scan

/-! ## Documents -/

/-- Since the reader matches tags, the events of an acceptable transcript are
orderly. -/
theorem orderly_of_acceptable {t : Transcript} (h : Acceptable t)
    (hmatched : ∀ name, (0, .closed name) ∉ levelled 0 t.events) :
    Orderly 0 0 t.events := by
  refine ⟨?_, by simp [h.oneRoot]⟩
  rintro ⟨level, event⟩ hmem
  cases event with
  | opened tag => exact h.shallow level tag hmem
  | closed name =>
      rintro rfl
      exact hmatched name hmem
  | text raw =>
      obtain ⟨text, hresolve⟩ :=
        h.resolved raw (mem_events_of_mem_levelled hmem)
      refine ⟨text, hresolve, ?_⟩
      rintro rfl
      exact h.noStrayText raw text hmem hresolve
  | cdata body =>
      rintro rfl
      exact h.noStrayData body hmem
  | _ => trivial

theorem acceptable_of_orderly {t : Transcript} (hfault : t.fault = none)
    (h : Orderly 0 0 t.events) (hroot : topCount 0 t.events = 1)
    (hclosed : levelBehind 0 t.events = 0) : Acceptable t where
  faultless := hfault
  resolved raw hmem := by
    obtain ⟨level, hlevel⟩ := exists_mem_levelled hmem 0
    obtain ⟨text, hresolve, -⟩ := h.fits _ hlevel
    exact ⟨text, hresolve⟩
  oneRoot := hroot
  closed := hclosed
  shallow level tag hmem := h.fits _ hmem
  noStrayData body hmem := h.fits _ hmem rfl
  noStrayText raw text hmem hresolve := by
    obtain ⟨other, hother, hblank⟩ := h.fits _ hmem
    rw [hresolve] at hother
    cases hother
    exact hblank rfl

theorem scanDocument_iff_acceptable (cs : List Char) :
    (∃ scanned, scanDocument cs = .ok scanned) ↔ Acceptable (Xml.read cs) := by
  have hrun : (∃ s, Scan.start.run (Xml.read cs).events = .ok s) ↔
      Orderly 0 0 (Xml.read cs).events :=
    Scan.exists_run_iff Scan.rooted_start
  unfold scanDocument scanTranscript
  constructor
  · rintro ⟨scanned, hscan⟩
    split at hscan
    · cases hscan
    next s hs =>
        split at hscan
        · cases hscan
        next hfault =>
            obtain ⟨hrooted, hdepth, hroots⟩ :=
              Scan.run_ends Scan.rooted_start hs
            obtain ⟨hzero, hone⟩ :=
              (Scan.exists_finish_iff hrooted).mp ⟨scanned, hscan⟩
            refine acceptable_of_orderly hfault (hrun.mp ⟨s, hs⟩) ?_ ?_
            · rw [← hone, hroots]
              exact (Nat.zero_add _).symm
            · exact hdepth.symm.trans hzero
  · intro h
    obtain ⟨s, hs⟩ := hrun.mpr
      (orderly_of_acceptable h (closed_not_mem_levelled_read cs))
    obtain ⟨hrooted, hdepth, hroots⟩ := Scan.run_ends Scan.rooted_start hs
    simp only [hs, h.faultless]
    refine (Scan.exists_finish_iff hrooted).mpr ⟨?_, ?_⟩
    · rw [hdepth]
      exact h.closed
    · rw [hroots]
      exact (Nat.zero_add _).trans h.oneRoot

/-- The characters of a document behind the byte order marks at its start. -/
def stripped (body : String) : List Char :=
  body.toList.dropWhile (· == '\uFEFF')

/-- The feed of a document that is not blank, where another reader takes the
place of the one for Atom. -/
def readDocumentBy (atom : List Char → Except Atom.Fault Atom.Content)
    (url : String) (cs : List Char) : Except DocumentFault Feed :=
  match scanDocument cs with
  | .error fault => .error (.scan fault)
  | .ok scanned =>
      if scanned.items = [] ∧ scanned.root = "feed".toList then
        match atom cs with
        | .error fault => .error (.atom fault)
        | .ok content => .ok ⟨url, content.title, content.items⟩
      else .ok ⟨url, scanned.title?.getD "", scanned.items⟩

/-- The feed of a document with the log, where another reader takes the place of
the one for Atom. -/
def readBy (atom : List Char → Except Atom.Fault Atom.Content)
    (url body : String) : Feed × Log :=
  if (stripped body).all isBlank then (empty url, [])
  else
    match readDocumentBy atom url (stripped body) with
    | .ok feed => (feed, [])
    | .error fault => (empty url, [unreadable url fault])

theorem readBy_atom : readBy Atom.read = read := rfl

/-- A document that the scan does not accept is read as the empty feed, whatever
reads Atom. -/
theorem readBy_of_scan_error
    (atom : List Char → Except Atom.Fault Atom.Content) (url : String)
    {body : String} {fault : ScanFault}
    (h : scanDocument (stripped body) = .error fault) :
    readBy atom url body =
      (empty url,
        if (stripped body).all isBlank then []
        else [unreadable url (.scan fault)]) := by
  simp only [readBy, readDocumentBy, h]
  split <;> rfl

/-- The scan accepts exactly the acceptable documents.  Every other one is read
as the empty feed, and what reads Atom has no say in it. -/
theorem accepts_exactly_acceptable (url body : String) :
    ((∃ scanned, scanDocument (stripped body) = .ok scanned) ↔
        Acceptable (Xml.read (stripped body))) ∧
      (¬Acceptable (Xml.read (stripped body)) →
        (read url body).1 = empty url ∧
          ∀ atom, readBy atom url body = read url body) := by
  refine ⟨scanDocument_iff_acceptable _, fun hnot => ?_⟩
  rw [← scanDocument_iff_acceptable] at hnot
  cases hscan : scanDocument (stripped body) with
  | ok scanned => exact absurd ⟨scanned, hscan⟩ hnot
  | error fault =>
      rw [← readBy_atom]
      refine ⟨by rw [readBy_of_scan_error _ _ hscan], fun atom => ?_⟩
      rw [readBy_of_scan_error _ _ hscan, readBy_of_scan_error _ _ hscan]

/-- An end tag that is missing at the very end takes a complete item along. -/
theorem rejects_cut_document :
    let whole := "<rss><item><title>a</title></item></rss>"
    let cut := "<rss><item><title>a</title></item>"
    (read "u" whole).1 = ⟨"u", "a", [⟨"a", "", ""⟩]⟩ ∧
      ¬Acceptable (Xml.read (stripped cut)) ∧ (read "u" cut).1 = empty "u" := by
  intro whole cut
  have hcut : ¬Acceptable (Xml.read (stripped cut)) := fun h =>
    absurd h.closed (by decide +kernel)
  obtain ⟨-, hrejected⟩ := accepts_exactly_acceptable "u" cut
  exact ⟨by decide +kernel, hcut, (hrejected hcut).1⟩

end Newsstand.Feed
