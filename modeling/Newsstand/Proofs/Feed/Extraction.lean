import Newsstand.Proofs.Feed.Acceptance
import Newsstand.Proofs.Feed.Discipline
import Newsstand.Proofs.Feed.Reference
import Newsstand.Proofs.Xml.Beginning
import Newsstand.Proofs.Xml.Spelling

/-!
# What is extracted from a document

The scan sees a document as events that pass by, and keeps what it needs in a
few slots.  What it yields is nevertheless what can be read off the whole tree.
The proof follows the tree: `Grown` says what nodes that pass by add to a scan,
in terms of the tree alone, whatever the scan has been doing before.
-/

namespace Newsstand.Feed

open Newsstand.Text Newsstand.Xml

/-- The text in a slot after some nodes have passed by.  An empty slot is filled
by the first element of its name, and a slot to which text goes takes it all. -/
def grownText (name : List Char) (captured : Bool) (nodes : List Node) :
    Option String → Option String
  | none => firstText? name nodes
  | some text =>
      some (if captured then text ++ String.ofList (textBelow nodes) else text)

theorem grownText_append {name : List Char} {captured : Bool}
    {text? : Option String} (h : captured → text?.isSome)
    (nodes more : List Node) :
    grownText name captured (nodes ++ more) text? =
      grownText name captured more (grownText name captured nodes text?) := by
  cases text? with
  | none =>
      have hnot : captured = false := by simpa using h
      simp only [grownText, firstText?_append, hnot]
      cases firstText? name nodes <;> rfl
  | some text =>
      cases captured
      · rfl
      · simp [grownText, String.append_assoc]

namespace Scan

/-- The second scan is the first one after some nodes have passed by. -/
structure Grown (s t : Scan) (nodes : List Node) : Prop where
  depth : t.depth = s.depth
  captures : t.captures = s.captures
  draft : t.draftDepth? = s.draftDepth?
  root : t.root? = s.root?.or (rootName? nodes)
  text : ∀ slot, s.hasSlot slot →
    t.text? slot = grownText slot.name (s.isCaptured slot) nodes (s.text? slot)
  items : t.items.toList =
    s.items.toList ++ if s.draftDepth? = none then itemsOf nodes else []

variable {s t u : Scan} {nodes more : List Node}

theorem grown_nil (s : Scan) : s.Grown s [] where
  depth := rfl
  captures := rfl
  draft := rfl
  root := Option.or_none.symm
  text slot hslot := by
    cases s.text? slot with
    | none => rfl
    | some text => simp [grownText, textBelow]
  items := by simp [itemsOf, outermostContents, elementsIn]

theorem Grown.hasSlot_eq (h : s.Grown t nodes) (slot : Slot) :
    t.hasSlot slot = s.hasSlot slot := by
  cases slot with
  | feedTitle => rfl
  | item field => rw [hasSlot_item, hasSlot_item, h.draft]

theorem Grown.isCaptured_eq (h : s.Grown t nodes) (slot : Slot) :
    t.isCaptured slot = s.isCaptured slot := by
  simp only [isCaptured, h.captures]

/-- Nodes pass by one after another. -/
theorem Grown.trans (hs : s.Disciplined) (h : s.Grown t nodes)
    (hmore : t.Grown u more) : s.Grown u (nodes ++ more) where
  depth := hmore.depth.trans h.depth
  captures := hmore.captures.trans h.captures
  draft := hmore.draft.trans h.draft
  root := by rw [hmore.root, h.root, rootName?_append, Option.or_assoc]
  text slot hslot := by
    rw [hmore.text slot ((h.hasSlot_eq slot).trans hslot), h.text slot hslot,
      h.isCaptured_eq, grownText_append fun hc => hs.text?_isSome hc]
  items := by
    rw [hmore.items, h.items, h.draft, itemsOf_append, List.append_assoc]
    split <;> simp

theorem Grown.cons (hs : s.Disciplined) {node : Node} (h : s.Grown t [node])
    (hmore : t.Grown u nodes) : s.Grown u (node :: nodes) :=
  h.trans hs hmore

theorem grown_appendText (hs : s.Disciplined) (cs : List Char) :
    s.Grown (s.appendText (String.ofList cs)) [.text cs] where
  depth := s.appendText_depth _
  captures := s.appendText_captures _
  draft := s.appendText_draftDepth? _
  root := by rw [appendText_root?, rootName?_text, Option.or_none]
  text slot hslot := by
    rw [s.appendText_text? _ slot hs.distinct]
    cases s.text? slot with
    | none => simp [grownText, firstText?_text]
    | some text =>
        cases s.isCaptured slot <;>
          simp [grownText, textBelow, Node.textWithin]
  items := by rw [appendText_items, itemsOf_text]; simp

/-- Outside of all elements, text goes nowhere. -/
theorem grown_blank (hs : s.Disciplined) (h : s.depth = 0) (cs : List Char) :
    s.Grown s [.text cs] where
  depth := rfl
  captures := rfl
  draft := rfl
  root := by rw [rootName?_text, Option.or_none]
  text slot hslot := by
    have hnot : s.isCaptured slot = false := by
      simp [isCaptured, hs.captures_eq_nil h]
    rw [hnot]
    cases s.text? slot <;> rfl
  items := by rw [itemsOf_text]; simp

/-! ## Elements -/

theorem enter_isCaptured (s : Scan) (tag : Tag) (slot : Slot) :
    (s.enter tag).isCaptured slot =
      (s.isCaptured slot || s.fills tag.name slot) := by
  rw [Bool.eq_iff_iff]
  simp only [isCaptured, decide_eq_true_eq, List.mem_map, Bool.or_eq_true,
    mem_enter_captures]
  constructor
  · rintro ⟨c, hbefore | ⟨-, hfills⟩, rfl⟩
    · exact Or.inl ⟨c, hbefore, rfl⟩
    · exact Or.inr hfills
  · rintro (⟨c, hbefore, rfl⟩ | hfills)
    · exact ⟨c, Or.inl hbefore, rfl⟩
    · exact ⟨⟨slot, s.depth + 1⟩, Or.inr ⟨rfl, hfills⟩, rfl⟩

theorem enter_hasSlot (tag : Tag) {slot : Slot} (h : s.hasSlot slot) :
    (s.enter tag).hasSlot slot := by
  cases slot with
  | feedTitle => rfl
  | item field =>
      obtain ⟨depth, hdepth⟩ := exists_draftDepth? h nofun
      rw [hasSlot_item, enter_draftDepth?_of_some tag hdepth]
      rfl

/-- Nodes in an element fill the slots as the whole element does. -/
theorem Grown.text_of_enter {tag : Tag} {content : List Node}
    (h : (s.enter tag).Grown t content) {slot : Slot} (hslot : s.hasSlot slot) :
    t.text? slot =
      grownText slot.name (s.isCaptured slot) [.element tag content]
        (s.text? slot) := by
  have hbelow : textBelow [.element tag content] = textBelow content := by
    simp [textBelow, Node.textWithin]
  rw [h.text slot (enter_hasSlot tag hslot), enter_isCaptured,
    enter_text? tag hslot]
  by_cases hfills : s.fills tag.name slot
  · obtain ⟨-, hname, hnone⟩ := of_decide_eq_true hfills
    rw [if_pos hfills, hfills, Bool.or_true, hnone]
    simp [grownText, firstText?_element, hname]
  · rw [Bool.not_eq_true] at hfills
    rw [hfills, Bool.or_false, if_neg Bool.false_ne_true]
    cases htext : s.text? slot with
    | none =>
        have hname : tag.name ≠ slot.name := fun hname => by
          simp [fills, hslot, hname, htext] at hfills
        simp only [grownText, firstText?_element, if_neg hname]
    | some text => simp only [grownText, hbelow]

theorem Grown.captures_exit (hs : s.Disciplined) {tag : Tag}
    {content : List Node} (h : (s.enter tag).Grown t content) :
    t.exit.captures = s.captures := by
  have hdepth : t.depth = s.depth + 1 := h.depth
  rw [exit_captures, h.captures, enter_captures, List.filter_append, hdepth]
  have hbefore : s.captures.filter (·.depth != s.depth + 1) = s.captures := by
    refine List.filter_eq_self.mpr fun c hc => ?_
    have hlevel := hs.level c hc
    simp
    omega
  rw [hbefore]
  simp [List.filter_map, Function.comp_def]

/-- What is collected of an open item is the item of its content. -/
theorem Grown.finish_eq {tag : Tag} {content : List Node} {draft : Draft}
    (h : (s.enter tag).Grown t content) (hnone : s.draft? = none)
    (hname : tag.name = "item".toList) (hdraft : t.draft? = some draft) :
    draft.finish = itemOf content := by
  have hopened : (s.enter tag).draft? = some (.blank (s.depth + 1)) := by
    have hopen := s.openElement_draft?_of_none tag (s.depth + 1) hnone
    rwa [if_pos hname] at hopen
  have hfield (field : Field) :
      draft.field? field = firstText? field.name content := by
    have htext := h.text (.item field) (by simp [hasSlot, hopened])
    have hblank : (s.enter tag).text? (.item field) = none := by
      simp only [text?, hopened]
      cases field <;> rfl
    rw [hblank] at htext
    have hheld : t.text? (.item field) = draft.field? field := by
      simp [text?, hdraft]
    exact hheld.symm.trans htext
  have htitle : draft.title? = firstText? "title".toList content :=
    hfield .title
  have hlink : draft.link? = firstText? "link".toList content := hfield .link
  have hdescription :
      draft.description? = firstText? "description".toList content :=
    hfield .description
  simp only [Draft.finish, htitle, hlink, hdescription]
  rfl

theorem Grown.root?_exit {tag : Tag} {content : List Node}
    (h : (s.enter tag).Grown t content) :
    t.exit.root? = s.root?.or (rootName? [.element tag content]) := by
  have hexit : t.exit.root? = t.root? := t.closeElement_root? t.depth
  have henter : (s.enter tag).root? = s.root?.or (some tag.localName) :=
    s.openElement_root? tag _
  rw [hexit, h.root, henter, rootName?_element, Option.or_assoc]
  rfl

/-- An element passes by when its content does between its tags. -/
theorem Grown.exit (hs : s.Disciplined) {tag : Tag} {content : List Node}
    (h : (s.enter tag).Grown t content) :
    s.Grown t.exit [.element tag content] := by
  have hdepth : t.depth = s.depth + 1 := h.depth
  have hback : t.exit.depth = s.depth := by rw [exit_depth, hdepth]; rfl
  have hitems := h.items
  rw [show (s.enter tag).items = s.items from s.openElement_items tag _]
    at hitems
  cases hdraft : s.draftDepth? with
  | some depth =>
      -- The item around the element goes on.
      have henter := enter_draftDepth?_of_some tag hdraft
      have hopen : t.draftDepth? = some depth := h.draft.trans henter
      have hne : t.draftDepth? ≠ some t.depth := by
        have hlevel := hs.draft depth hdraft
        rw [hopen, hdepth, Ne, Option.some.injEq]
        omega
      obtain ⟨hsame, hkept, htext⟩ := exit_of_ne hne
      refine ⟨hback, h.captures_exit hs, hsame.trans (hopen.trans hdraft.symm),
        h.root?_exit, fun slot hslot => ?_, ?_⟩
      · rw [htext, h.text_of_enter hslot]
      · rw [hkept, hitems, henter, hdraft]
        rfl
  | none =>
      have henter := enter_draftDepth?_of_none tag hdraft
      by_cases hname : tag.name = "item".toList
      · -- The element is an item of the feed, which ends with it.
        rw [if_pos hname] at henter
        have hopen : t.draftDepth? = some t.depth := by
          rw [h.draft, henter, hdepth]
        obtain ⟨draft, hheld, hlevel⟩ := Option.map_eq_some_iff.mp hopen
        obtain ⟨hgone, hpushed⟩ := exit_of_item hheld hlevel
        have hfinish :=
          h.finish_eq (Option.map_eq_none_iff.mp hdraft) hname hheld
        refine ⟨hback, h.captures_exit hs, hgone.trans hdraft.symm,
          h.root?_exit, fun slot hslot => ?_, ?_⟩
        · cases slot with
          | feedTitle =>
              rw [← h.text_of_enter hslot]
              exact t.exit_title?
          | item field =>
              rw [hasSlot_item, hdraft] at hslot
              cases hslot
        · rw [hpushed, Array.toList_push, hitems, henter, hdraft, hfinish,
            itemsOf_element, if_pos hname]
          simp
      · -- Neither is there an item around the element nor is it one.
        rw [if_neg hname] at henter
        have hnone : t.draftDepth? = none := h.draft.trans henter
        obtain ⟨hsame, hkept, htext⟩ := exit_of_ne (s := t) (by simp [hnone])
        refine ⟨hback, h.captures_exit hs,
          hsame.trans (hnone.trans hdraft.symm), h.root?_exit,
          fun slot hslot => ?_, ?_⟩
        · rw [htext, h.text_of_enter hslot]
        · rw [hkept, hitems, henter, hdraft, itemsOf_element, if_neg hname]

theorem grown_of_spells {events : List Event} (hnodes : Spells events nodes)
    (hs : s.Disciplined) (hrun : s.run events = .ok t) : s.Grown t nodes := by
  induction hnodes generalizing s t with
  | nil =>
      cases hrun
      exact grown_nil s
  | text hresolve hrest ih =>
      obtain ⟨next, hstep, hnext⟩ := run_cons_eq_ok hrun
      refine Grown.cons hs ?_ (ih (hstep.disciplined hs) hnext)
      cases hstep with
      | blank hother hdepth hblank => exact grown_blank hs hdepth _
      | text hother hdepth =>
          rw [hresolve] at hother
          cases hother
          exact grown_appendText hs _
  | cdata hrest ih =>
      obtain ⟨next, hstep, hnext⟩ := run_cons_eq_ok hrun
      refine Grown.cons hs ?_ (ih (hstep.disciplined hs) hnext)
      cases hstep with
      | cdata hdepth => exact grown_appendText hs _
  | single hrest ih =>
      obtain ⟨next, hstep, hnext⟩ := run_cons_eq_ok hrun
      refine Grown.cons hs ?_ (ih (hstep.disciplined hs) hnext)
      cases hstep with
      | single hroot =>
          rw [visit_eq]
          exact (grown_nil _).exit hs
  | @element tag name inner events content nodes hinner hrest ihinner ih =>
      obtain ⟨inside, hstep, hnext⟩ := run_cons_eq_ok hrun
      obtain ⟨last, hcontent, hclose⟩ := run_append_eq_ok hnext
      obtain ⟨behind, hend, hafter⟩ := run_cons_eq_ok hclose
      cases hstep with
      | opened hroot hdepth =>
          have hinside := hs.enter tag
          have hlast := hinside.run hcontent
          cases hend with
          | closed hopen =>
              exact Grown.cons hs ((ihinner hinside hcontent).exit hs)
                (ih hlast.exit hafter)
  | doctype hrest ih =>
      obtain ⟨next, hstep, hnext⟩ := run_cons_eq_ok hrun
      cases hstep
      exact ih hs hnext
  | comment hrest ih =>
      obtain ⟨next, hstep, hnext⟩ := run_cons_eq_ok hrun
      cases hstep
      exact ih hs hnext
  | instruction hrest ih =>
      obtain ⟨next, hstep, hnext⟩ := run_cons_eq_ok hrun
      cases hstep
      exact ih hs hnext

end Scan

/-! ## Documents -/

/-- The tree of a document. -/
def treeOf (cs : List Char) : List Node :=
  Node.ofEvents ((Xml.read cs).events.map .ok)

theorem spells_treeOf {cs : List Char} (h : Acceptable (Xml.read cs)) :
    Spells (Xml.read cs).events (treeOf cs) :=
  spells_ofEvents h.closed (closed_not_mem_levelled_read cs) h.resolved

/-- What the scan yields can be read off the nodes that the events spell. -/
theorem scanned_eq_of_spells {t : Transcript} {nodes : List Node}
    {scanned : Scanned} (hspells : Spells t.events nodes)
    (h : scanTranscript t = .ok scanned) :
    rootName? nodes = some scanned.root ∧ scanned.title? = titleOf? nodes ∧
      scanned.items = itemsOf nodes := by
  unfold scanTranscript at h
  split at h
  · cases h
  next s hrun =>
      have hgrown := Scan.grown_of_spells hspells Scan.disciplined_start hrun
      split at h
      · cases h
      · unfold Scan.finish at h
        split at h
        · cases h
        · split at h
          · cases h
          next root hroot =>
              cases h
              have htitle : s.title? = firstText? "title".toList nodes :=
                hgrown.text .feedTitle rfl
              have hitems := hgrown.items
              refine ⟨?_, ?_, ?_⟩
              · rw [← hroot, hgrown.root]
                rfl
              · rw [htitle]
                rfl
              · rw [hitems]
                rfl

/-- What the scan yields can be read off the tree. -/
theorem scanned_eq_of_tree {cs : List Char} {scanned : Scanned}
    (h : scanDocument cs = .ok scanned) :
    rootName? (treeOf cs) = some scanned.root ∧
      scanned.title? = titleOf? (treeOf cs) ∧
      scanned.items = itemsOf (treeOf cs) :=
  scanned_eq_of_spells
    (spells_treeOf ((scanDocument_iff_acceptable cs).mp ⟨scanned, h⟩)) h

/-- A second mark would be text outside of the root element. -/
theorem not_acceptable_of_two_marks (rest : List Char) :
    ¬Acceptable (Xml.read ('\uFEFF' :: '\uFEFF' :: rest)) := by
  intro h
  obtain ⟨raw, events, hevents⟩ :=
    exists_text_of_ne (c := '\uFEFF') (by decide) rest
  have hread : (Xml.read ('\uFEFF' :: '\uFEFF' :: rest)).events =
      .text ('\uFEFF' :: raw) :: events := hevents
  have hmem : (0, .text ('\uFEFF' :: raw)) ∈
      levelled 0 (Xml.read ('\uFEFF' :: '\uFEFF' :: rest)).events := by
    rw [hread]
    exact List.mem_cons_self
  obtain ⟨text, hresolve⟩ := h.resolved _ (mem_events_of_mem_levelled hmem)
  have hblank := h.noStrayText _ text hmem hresolve
  obtain ⟨tail, rfl⟩ := exists_cons_of_resolve (by decide) hresolve
  rw [List.all_cons] at hblank
  exact absurd (Bool.and_eq_true_iff.mp hblank).1 (by decide)

/-- A document that is accepted reads the same without the marks at its start,
of which it has at most one. -/
theorem read_dropWhile_of_scanned {cs : List Char} {scanned : Scanned}
    (h : scanDocument cs = .ok scanned) :
    Xml.read (cs.dropWhile (· == '\uFEFF')) = Xml.read cs := by
  have hacceptable := (scanDocument_iff_acceptable cs).mp ⟨scanned, h⟩
  cases cs with
  | nil => rfl
  | cons c rest =>
      by_cases hc : c = '\uFEFF'
      · subst hc
        cases rest with
        | nil => rfl
        | cons d rest =>
            have hd : d ≠ '\uFEFF' := by
              rintro rfl
              exact not_acceptable_of_two_marks rest hacceptable
            rw [List.dropWhile_cons_of_pos rfl,
              List.dropWhile_cons_of_neg (by simpa using hd),
              read_cons_of_ne hd]
            rfl
      · rw [List.dropWhile_cons_of_neg (by simpa using hc)]

theorem not_blank_of_scanned {cs : List Char} {scanned : Scanned}
    (h : scanDocument cs = .ok scanned) : cs.all isBlank = false := by
  refine Bool.eq_false_iff.mpr fun hblank => ?_
  have hroot := ((scanDocument_iff_acceptable cs).mp ⟨scanned, h⟩).oneRoot
  rw [topCount_read_of_blank hblank] at hroot
  cases hroot

theorem dropWhile_replicate_append (n : ℕ) (c : Char) (cs : List Char) :
    (List.replicate n c ++ cs).dropWhile (· == c) = cs.dropWhile (· == c) := by
  induction n with
  | zero => rfl
  | succ n ih =>
      rw [List.replicate_succ, List.cons_append, List.dropWhile_cons_of_pos,
        ih]
      exact beq_self_eq_true c

/-- Of a document that is accepted the scan yields the title and the items of
its tree.  With marks before it, as many as there may be, it is read as the feed
of this title and these items if there are items or if the root element is not
called `feed`. -/
theorem reads_as_tree (url body : String) (marks : ℕ) {cs : List Char}
    {scanned : Scanned}
    (hbody : body.toList = List.replicate marks '\uFEFF' ++ cs)
    (hscan : scanDocument cs = .ok scanned) :
    rootName? (treeOf cs) = some scanned.root ∧
      scanned.title? = titleOf? (treeOf cs) ∧
      scanned.items = itemsOf (treeOf cs) ∧
      (itemsOf (treeOf cs) ≠ [] ∨
          rootName? (treeOf cs) ≠ some "feed".toList →
        (read url body).1 =
          ⟨url, (titleOf? (treeOf cs)).getD "", itemsOf (treeOf cs)⟩) := by
  obtain ⟨hroot, htitle, hitems⟩ := scanned_eq_of_tree hscan
  refine ⟨hroot, htitle, hitems, fun hrss => ?_⟩
  have hstripped :
      scanDocument (cs.dropWhile (· == '\uFEFF')) = .ok scanned := by
    rw [scanDocument, read_dropWhile_of_scanned hscan]
    exact hscan
  have hnot : ¬(scanned.items = [] ∧ scanned.root = "feed".toList) := by
    rw [hroot, ← hitems] at hrss
    simpa [imp_iff_not_or, Decidable.not_and_iff_or_not] using hrss
  have hdocument : readDocument url (cs.dropWhile (· == '\uFEFF')) =
      .ok ⟨url, scanned.title?.getD "", scanned.items⟩ := by
    simp only [readDocument, hstripped, if_neg hnot]
  have hblank := not_blank_of_scanned hstripped
  rw [← htitle, ← hitems]
  simp only [read, hbody, dropWhile_replicate_append, hblank, hdocument,
    Bool.false_eq_true, if_false]

/-- The first title stands in an item, another item is below this item, and a
text comes in pieces. -/
theorem reads_as_tree_of_nested_items :
    let body := "<rss><item><title>a<b>&amp;</b><![CDATA[c]]></title>" ++
      "<item><link> l </link></item></item><title>t</title><item/></rss>"
    let items : List Item := [⟨"a&c", "l", ""⟩, ⟨"", "", ""⟩]
    scanDocument body.toList = .ok ⟨"rss".toList, some "a&c", items⟩ ∧
      itemsOf (treeOf body.toList) = items ∧
      (read "u" body).1 = ⟨"u", "a&c", items⟩ := by
  intro body items
  have hscan : scanDocument body.toList =
      .ok ⟨"rss".toList, some "a&c", items⟩ := by
    decide +kernel
  obtain ⟨-, htitle, hitems, hread⟩ :=
    reads_as_tree "u" body 0 (List.nil_append _).symm hscan
  rw [← htitle, ← hitems] at hread
  exact ⟨hscan, hitems.symm, hread (Or.inl (List.cons_ne_nil _ _))⟩

end Newsstand.Feed
