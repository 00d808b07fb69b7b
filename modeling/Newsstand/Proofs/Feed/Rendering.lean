import Newsstand.Proofs.Feed.Influence
import Newsstand.Proofs.Xml.Writing

/-!
# Rendered feeds

A feed that is rendered as a document is read back, whatever characters stand in
its title and its items.  Each text comes from the element in which it was
written, blanks at its ends are lost, and so no item is lost, merged with another
one or out of order.

A document is accepted if it is an element in which nodes are written that are
not nested too deep, and what is read can be told from these nodes.
-/

namespace Newsstand

open Newsstand.Text Newsstand.Xml

namespace Feed

/-! ## Accepted documents -/

/-- The events of nodes that stand in an element are in their places if there is
room for the nodes. -/
theorem fits_of_spells {events : List Event} {nodes : List Node}
    (h : Spells events nodes) {level : ℕ} (hlevel : 0 < level)
    (hheight : level + heightOf nodes ≤ maxDepth) :
    ∀ p ∈ levelled level events, 0 < p.1 ∧ FitsAt p.1 p.2 := by
  have hrest {level : ℕ} {node : Node} {nodes : List Node}
      (h : level + heightOf (node :: nodes) ≤ maxDepth) :
      level + heightOf nodes ≤ maxDepth :=
    (Nat.add_le_add_left (Nat.le_max_right _ _) level).trans h
  induction h generalizing level with
  | nil => exact fun p hp => absurd hp List.not_mem_nil
  | text hresolve _ ih =>
      rw [levelled, List.forall_mem_cons]
      exact ⟨⟨hlevel, _, hresolve, fun hzero => absurd hzero hlevel.ne'⟩,
        ih hlevel (hrest hheight)⟩
  | cdata _ ih =>
      rw [levelled, List.forall_mem_cons]
      exact ⟨⟨hlevel, hlevel.ne'⟩, ih hlevel (hrest hheight)⟩
  | single _ ih =>
      rw [levelled, List.forall_mem_cons]
      exact ⟨⟨hlevel, trivial⟩, ih hlevel (hrest hheight)⟩
  | @element tag name inner events content nodes hinner _ ihinner ih =>
      have hcontent : level + 1 + heightOf content ≤ maxDepth := by
        have hnode : heightOf content + 1 ≤
            heightOf (.element tag content :: nodes) := Nat.le_max_left _ _
        omega
      have hopened : FitsAt level (.opened tag) := by
        show level < maxDepth
        omega
      rw [levelled, levelled_append, levelled, Event.levelAfter,
        levelBehind_of_spells hinner, List.forall_mem_cons,
        List.forall_mem_append, List.forall_mem_cons]
      refine ⟨⟨hlevel, hopened⟩, ihinner level.succ_pos hcontent,
        ⟨level.succ_pos, level.succ_ne_zero⟩, ih hlevel (hrest hheight)⟩
  | doctype _ ih =>
      rw [levelled, List.forall_mem_cons]
      exact ⟨⟨hlevel, trivial⟩, ih hlevel hheight⟩
  | comment _ ih =>
      rw [levelled, List.forall_mem_cons]
      exact ⟨⟨hlevel, trivial⟩, ih hlevel hheight⟩
  | instruction _ ih =>
      rw [levelled, List.forall_mem_cons]
      exact ⟨⟨hlevel, trivial⟩, ih hlevel hheight⟩

/-- An element in which nodes are written that are not nested too deep is an
acceptable document. -/
theorem acceptable_enclose {events : List Event} {nodes : List Node}
    (h : Spells events nodes) (hheight : heightOf nodes < maxDepth)
    (tag : Tag) : Acceptable ⟨tag.enclose events, none⟩ := by
  have hinside := fits_of_spells h Nat.one_pos (by omega)
  have hbehind := levelBehind_of_spells h 1
  have hlevelled : levelled 0 (tag.enclose events) =
      (0, .opened tag) :: (levelled 1 events ++ [(1, .closed tag.name)]) := by
    rw [Tag.enclose, levelled, Event.levelAfter, levelled_append, hbehind]
    rfl
  have hroots : topCount 0 (tag.enclose events) = 1 := by
    have hnone : (levelled 1 events).countP (fun p => p.2.beginsTop p.1) = 0 := by
      rw [List.countP_eq_zero]
      intro p hp
      have hpos := (hinside p hp).1
      simp [Event.beginsTop, hpos.ne']
    rw [topCount, hlevelled, List.countP_cons, List.countP_append, hnone]
    rfl
  have hclosed : levelBehind 0 (tag.enclose events) = 0 :=
    levelBehind_of_spells (.element h .nil) 0
  refine acceptable_of_orderly rfl ⟨?_, (Nat.zero_add _).trans_le hroots.le⟩ hroots hclosed
  rw [hlevelled, List.forall_mem_cons, List.forall_mem_append,
    List.forall_mem_singleton]
  exact ⟨Nat.zero_lt_of_lt hheight, fun p hp => (hinside p hp).2,
    Nat.one_ne_zero⟩

/-- What the scan yields of an element in which nodes are written. -/
theorem scanDocument_around {cs : List Char} {nodes : List Node} {tag : Tag}
    (h : Writes cs nodes) (htag : tag.Plain)
    (hheight : heightOf nodes < maxDepth) :
    scanDocument (tag.around cs) =
      .ok ⟨tag.localName, titleOf? [.element tag nodes],
        itemsOf [.element tag nodes]⟩ := by
  obtain ⟨events, hreads, hspells⟩ := h
  have hread : Xml.read (tag.around cs) = ⟨tag.enclose events, none⟩ :=
    (hreads.around htag).read_eq (tag.beginsMarkup_around cs)
  have hacceptable : Acceptable (Xml.read (tag.around cs)) := by
    rw [hread]
    exact acceptable_enclose hspells hheight tag
  obtain ⟨scanned, hscan⟩ := (scanDocument_iff_acceptable _).mpr hacceptable
  have hwhole : Spells (Xml.read (tag.around cs)).events
      [.element tag nodes] := by
    rw [hread]
    exact .element hspells .nil
  obtain ⟨hroot, htitle, hitems⟩ := scanned_eq_of_spells hwhole hscan
  rw [hscan, ← htitle, ← hitems]
  rw [rootName?_element] at hroot
  rw [Option.some.inj hroot]

/-! ## Rendered feeds -/

/-- A text in an element, as it is rendered. -/
def rendered (name text : String) : String :=
  "<" ++ name ++ ">" ++ String.ofList (escape text.toList) ++ "</" ++ name ++ ">"

/-- An item as it is rendered. -/
def renderedItem (item : Item) : String :=
  "<item>" ++ rendered "title" item.title ++ rendered "link" item.link ++
    rendered "description" item.description ++ "</item>"

/-- A feed as it is rendered. -/
def renderedFeed (title : String) (items : List Item) : String :=
  "<rss><channel>" ++ rendered "title" title ++
    String.join (items.map renderedItem) ++ "</channel></rss>"

/-- An item whose texts are trimmed. -/
def Item.trimmed (item : Item) : Item :=
  ⟨trim item.title, trim item.link, trim item.description⟩

/-- The tag of a name. -/
def plainTag (name : String) : Tag :=
  ⟨name.toList⟩

/-- The node of a text in an element. -/
def textNode (name text : String) : Node :=
  .element (plainTag name) (textNodes text.toList)

/-- The node of an item. -/
def itemNode (item : Item) : Node :=
  .element (plainTag "item")
    [textNode "title" item.title, textNode "link" item.link,
      textNode "description" item.description]

/-- A name of letters. -/
def IsWord (name : String) : Prop :=
  name.toList ≠ [] ∧ name.toList.all Char.isAlpha

instance (name : String) : Decidable (IsWord name) :=
  inferInstanceAs (Decidable (_ ∧ _))

theorem isWord_names :
    IsWord "rss" ∧ IsWord "channel" ∧ IsWord "item" ∧ IsWord "title" ∧
      IsWord "link" ∧ IsWord "description" := by
  decide

section Texts

variable {name : String}

theorem IsWord.plain (h : IsWord name) : (plainTag name).Plain :=
  (plain_of_letters h.1 (List.all_eq_true.mp h.2)).1

theorem IsWord.name_eq (h : IsWord name) : (plainTag name).name = name.toList :=
  (plain_of_letters h.1 (List.all_eq_true.mp h.2)).2

theorem toList_rendered (h : IsWord name) (text : String) :
    (rendered name text).toList =
      (plainTag name).around (escape text.toList) := by
  rw [Tag.around, h.name_eq]
  simp [rendered, plainTag]

theorem writes_rendered (h : IsWord name) (text : String) :
    Writes (rendered name text).toList [textNode name text] := by
  rw [toList_rendered h]
  exact (Writes.text _).around h.plain

theorem beginsMarkup_rendered (h : IsWord name) (text : String) :
    BeginsMarkup (rendered name text).toList := by
  rw [toList_rendered h]
  exact Tag.beginsMarkup_around _ _

end Texts

theorem toList_renderedItem (item : Item) :
    (renderedItem item).toList =
      (plainTag "item").around ((rendered "title" item.title).toList ++
        ((rendered "link" item.link).toList ++
          (rendered "description" item.description).toList)) := by
  obtain ⟨-, -, hitem, -, -, -⟩ := isWord_names
  rw [Tag.around, hitem.name_eq]
  simp [renderedItem, plainTag]

theorem writes_renderedItem (item : Item) :
    Writes (renderedItem item).toList [itemNode item] := by
  obtain ⟨-, -, hitem, htitle, hlink, hdescription⟩ := isWord_names
  rw [toList_renderedItem]
  refine Writes.around ?_ hitem.plain
  refine (writes_rendered htitle _).append ?_ ?_
  · exact (writes_rendered hlink _).append (writes_rendered hdescription _)
      (beginsMarkup_rendered hdescription _)
  · exact (beginsMarkup_rendered hlink _).append
      (beginsMarkup_rendered hdescription _)

theorem toList_renderedFeed (title : String) (items : List Item) :
    (renderedFeed title items).toList =
      (plainTag "rss").around ((plainTag "channel").around
        ((rendered "title" title).toList ++
          items.flatMap fun item => (renderedItem item).toList)) := by
  obtain ⟨hrss, hchannel, -, -, -, -⟩ := isWord_names
  rw [Tag.around, hrss.name_eq, Tag.around, hchannel.name_eq]
  unfold renderedFeed
  simp [plainTag, List.flatMap_map]

/-! ## The nodes of a rendered feed -/

section Nodes

variable {name : String}

theorem textBelow_textNodes (cs : List Char) : textBelow (textNodes cs) = cs := by
  unfold textNodes
  split
  next hnil => exact hnil.symm
  next => simp [textBelow, Node.textWithin]

theorem firstText?_textNodes (name cs : List Char) :
    firstText? name (textNodes cs) = none := by
  unfold textNodes
  split <;> rfl

theorem itemsOf_textNodes (cs : List Char) : itemsOf (textNodes cs) = [] := by
  unfold textNodes
  split <;> rfl

/-- The first text of a name is the one in the first element of this name. -/
theorem firstText?_cons_textNode (h : IsWord name) (other : List Char)
    (text : String) (nodes : List Node) :
    firstText? other (textNode name text :: nodes) =
      if name.toList = other then some text else firstText? other nodes := by
  rw [← List.singleton_append, firstText?_append, textNode, firstText?_element,
    h.name_eq, textBelow_textNodes, firstText?_textNodes, String.ofList_toList]
  split <;> rfl

theorem itemsOf_cons_textNode (h : IsWord name) (hitem : name ≠ "item")
    (text : String) (nodes : List Node) :
    itemsOf (textNode name text :: nodes) = itemsOf nodes := by
  have hname : name.toList ≠ "item".toList := fun heq =>
    hitem (String.toList_inj.mp heq)
  rw [← List.singleton_append, itemsOf_append, textNode, itemsOf_element,
    h.name_eq, if_neg hname, itemsOf_textNodes]
  rfl

theorem itemsOf_map_itemNode (items : List Item) :
    itemsOf (items.map itemNode) = items.map Item.trimmed := by
  obtain ⟨-, -, hitem, htitle, hlink, hdescription⟩ := isWord_names
  induction items with
  | nil => rfl
  | cons item items ih =>
      rw [List.map_cons, ← List.singleton_append, itemsOf_append, ih, itemNode,
        itemsOf_element, hitem.name_eq, if_pos rfl, List.map_cons]
      simp only [itemOf, fieldOf, firstText?_cons_textNode htitle,
        firstText?_cons_textNode hlink, firstText?_cons_textNode hdescription]
      rfl

end Nodes

/-- The nodes of a rendered feed. -/
def feedNodes (title : String) (items : List Item) : List Node :=
  [.element (plainTag "channel")
    ([textNode "title" title] ++ items.map itemNode)]

theorem writes_renderedFeed (title : String) (items : List Item) :
    Writes ((plainTag "channel").around ((rendered "title" title).toList ++
      items.flatMap fun item => (renderedItem item).toList))
        (feedNodes title items) := by
  obtain ⟨-, hchannel, -, htitle, -, -⟩ := isWord_names
  have hitem (item : Item) : BeginsMarkup (renderedItem item).toList := by
    rw [toList_renderedItem]
    exact Tag.beginsMarkup_around _ _
  obtain ⟨hitems, hbegins⟩ := Writes.flatMap writes_renderedItem hitem items
  exact ((writes_rendered htitle title).append hitems hbegins).around
    hchannel.plain

/-- A text stands in an element of an item of the channel. -/
theorem heightOf_feedNodes (title : String) (items : List Item) :
    heightOf (feedNodes title items) ≤ 3 := by
  have htext (name text : String) : (textNode name text).height = 1 := by
    rw [textNode, Node.height, heightOf_textNodes]
  have hitem (item : Item) : (itemNode item).height ≤ 2 := by
    simp [itemNode, Node.height, heightOf, htext]
  have hitems := heightOf_map_le hitem items
  simp only [feedNodes, heightOf, Node.height, heightOf_append, htext]
  omega

theorem titleOf?_feedNodes (title : String) (items : List Item)
    {tag : Tag} (htag : tag.name ≠ "title".toList) :
    titleOf? [.element tag (feedNodes title items)] = some (trim title) := by
  obtain ⟨-, hchannel, -, htitle, -, -⟩ := isWord_names
  have hname : "channel".toList ≠ "title".toList := by decide
  rw [titleOf?, firstText?_element, if_neg htag, feedNodes, firstText?_element,
    hchannel.name_eq, if_neg hname, List.singleton_append,
    firstText?_cons_textNode htitle, if_pos rfl]
  rfl

theorem itemsOf_feedNodes (title : String) (items : List Item)
    {tag : Tag} (htag : tag.name ≠ "item".toList) :
    itemsOf [.element tag (feedNodes title items)] =
      items.map Item.trimmed := by
  obtain ⟨-, hchannel, -, htitle, -, -⟩ := isWord_names
  have hname : "channel".toList ≠ "item".toList := by decide
  have hother : "title" ≠ "item" := by decide
  rw [itemsOf_element, if_neg htag, feedNodes, itemsOf_element,
    hchannel.name_eq, if_neg hname, List.singleton_append,
    itemsOf_cons_textNode htitle hother, itemsOf_map_itemNode]

/-- No mark is stripped off a document that begins with a bracket. -/
theorem stripped_of_beginsMarkup {body : String}
    (h : BeginsMarkup body.toList) : stripped body = body.toList := by
  unfold stripped
  cases hbody : body.toList with
  | nil => rfl
  | cons c cs =>
      rw [hbody] at h
      obtain rfl : c = '<' := h c rfl
      exact List.dropWhile_cons_of_neg (by decide)

/-- A feed is read back from the document as which it is rendered: with its
title and all of its items in order, each text without the blanks at its
ends. -/
theorem read_renderedFeed (url title : String) (items : List Item) :
    read url (renderedFeed title items) =
      (⟨url, trim title, items.map Item.trimmed⟩, []) := by
  obtain ⟨hrss, -, -, -, -, -⟩ := isWord_names
  have hroom : heightOf (feedNodes title items) < maxDepth :=
    (heightOf_feedNodes title items).trans_lt (by decide)
  have hbegins : BeginsMarkup (renderedFeed title items).toList := by
    rw [toList_renderedFeed]
    exact Tag.beginsMarkup_around _ _
  have hscan : scanDocument (stripped (renderedFeed title items)) =
      .ok ⟨(plainTag "rss").localName, some (trim title),
        items.map Item.trimmed⟩ := by
    rw [stripped_of_beginsMarkup hbegins, toList_renderedFeed,
      scanDocument_around (writes_renderedFeed title items) hrss.plain hroom,
      titleOf?_feedNodes title items (by decide),
      itemsOf_feedNodes title items (by decide)]
  have hfeed : (plainTag "rss").localName ≠ "feed".toList := by decide
  exact read_of_scanned url hscan fun hatom => hfeed hatom.2

/-- A text is empty, another one holds brackets and an ampersand, and there are
blanks around a third one. -/
example :
    read "u" (renderedFeed "<t>" [⟨"", " a&b ", "c"⟩]) =
      (⟨"u", "<t>", [⟨"", "a&b", "c"⟩]⟩, []) := by
  decide +kernel

end Feed

end Newsstand
