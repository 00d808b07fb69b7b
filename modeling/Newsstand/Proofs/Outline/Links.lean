import Newsstand.Outline
import Newsstand.Proofs.Support.Firsts
import Newsstand.Proofs.Xml.Keys
import Newsstand.Proofs.Xml.Order

/-!
# What the tags of an outline document say

A tag that names a feed has one value under its key, whatever else is wrong with
its attributes.  What an event does to the reading of the document is said here
once: where it ends the reading, why it does so, and which URL it adds.
-/

namespace Newsstand

namespace Xml

/-- The value of an attribute under a key, if it is one. -/
def AttributeResult.value? (key : List Char) : AttributeResult → Option (List Char)
  | .ok entry => if entry.key = key then some entry.value else none
  | .error _ => none

/-- The value of a tag under a key. -/
def Tag.value? (tag : Tag) (key : List Char) : Option (List Char) :=
  tag.attributes.findSome? (AttributeResult.value? key)

end Xml

namespace Outline

open Newsstand.Text Newsstand.Xml

/-! ## Tags -/

/-- The URL that a tag gives, without the blanks around it, or why it cannot be
read. -/
def link? (tag : Tag) : Option (Except ReferenceFault String) :=
  (tag.value? "xmlUrl".toList).map fun raw =>
    (resolve raw).map fun text => trim (String.ofList text)

/-- The URL of the feed that a tag names. -/
def feedUrl? (tag : Tag) : Option String :=
  match link? tag with
  | some (.ok url) => if (Url.readFeedUrl url).isOk then some url else none
  | _ => none

/-- Without the key, the search gives what it had. -/
theorem findUrl_of_not_mem {results : List AttributeResult}
    (h : "xmlUrl".toList ∉ results.filterMap AttributeResult.key?)
    (url? : Option String) (log : List LogEvent) :
    (findUrl url? log results).1 = .ok url? := by
  induction results generalizing log with
  | nil => rfl
  | cons result results ih =>
      cases result with
      | error fault => exact ih h _
      | ok entry =>
          rw [List.filterMap_cons_some (AttributeResult.key?_ok entry),
            List.mem_cons, not_or] at h
          obtain ⟨hkey, hrest⟩ := h
          rw [findUrl, if_neg (Ne.symm hkey)]
          exact ih hrest _

/-- Where no key is repeated, the search gives the value under the key. -/
theorem findUrl_eq {results : List AttributeResult}
    (h : (results.filterMap AttributeResult.key?).Nodup)
    (log : List LogEvent) :
    (findUrl none log results).1 =
      ((results.findSome? (AttributeResult.value? "xmlUrl".toList)).map
        fun raw => (resolve raw).map fun text => trim (String.ofList text)).elim
        (.ok none) (·.map some) := by
  induction results generalizing log with
  | nil => rfl
  | cons result results ih =>
      cases result with
      | error fault => exact ih h _
      | ok entry =>
          rw [List.filterMap_cons_some (AttributeResult.key?_ok entry),
            List.nodup_cons] at h
          obtain ⟨hfresh, hdistinct⟩ := h
          by_cases hkey : entry.key = "xmlUrl".toList
          · rw [hkey] at hfresh
            rw [findUrl, if_pos hkey]
            simp only [List.findSome?_cons, AttributeResult.value?, if_pos hkey,
              Option.map_some, Option.elim_some, valueText]
            cases hresolve : resolve entry.value with
            | error fault => rfl
            | ok text => exact findUrl_of_not_mem hfresh _ _
          · rw [findUrl, if_neg hkey]
            simp only [List.findSome?_cons, AttributeResult.value?, if_neg hkey]
            exact ih hdistinct _

/-- The search through the attributes of a tag finds its URL. -/
theorem findUrl_attributes (tag : Tag) (log : List LogEvent) :
    (findUrl none log tag.attributes).1 =
      (link? tag).elim (.ok none) (·.map some) :=
  findUrl_eq tag.nodup_keys log

/-- Why a tag cannot be read, if it cannot. -/
def tagFault? (tag : Tag) : Option Fault :=
  match link? tag with
  | some (.error fault) => some (.markup (.reference fault))
  | _ => none

theorem tagFault?_eq_none_iff (tag : Tag) :
    tagFault? tag = none ↔
      ∀ raw, tag.value? "xmlUrl".toList = some raw →
        ∃ text, resolve raw = .ok text := by
  unfold tagFault? link?
  cases tag.value? "xmlUrl".toList with
  | none => simp
  | some raw => cases hresolve : resolve raw <;> simp [hresolve, Except.map]

/-! ## Feeds -/

namespace State

variable {s : State} {found : List String}

/-- The feeds of a state are the first occurrences among the URLs found. -/
def Holds (s : State) (found : List String) : Prop :=
  s.urls.reverse = found.eraseDups

theorem Holds.mem_iff (h : s.Holds found) (url : String) :
    url ∈ s.urls ↔ url ∈ found := by
  rw [← List.mem_reverse, h, List.mem_eraseDups]

/-- A URL is taken if it names a feed, and left out if that is known. -/
theorem Holds.addUrl (h : s.Holds found) (url : String) :
    (s.addUrl url).Holds
      (found ++
        if (Url.readFeedUrl url).isOk then [url] else []) := by
  cases hread : Url.readFeedUrl url with
  | error fault =>
      simp only [State.addUrl, hread, Except.isOk, Except.toBool,
        Bool.false_eq_true, if_false, List.append_nil]
      exact h
  | ok target =>
      simp only [State.addUrl, hread, Except.isOk, Except.toBool, if_true]
      split
      next hmem =>
          rw [Holds, eraseDups_concat_of_mem ((h.mem_iff url).mp hmem)]
          exact h
      next hmem =>
          rw [Holds, eraseDups_concat_of_not_mem (mt (h.mem_iff url).mpr hmem),
            List.reverse_cons, h]

theorem addUrl_depth (s : State) (url : String) :
    (s.addUrl url).depth = s.depth := by
  unfold State.addUrl
  split
  · rfl
  · split <;> rfl

/-- What a tag of an `outline` element does. -/
theorem readTag_cases (s : State) (tag : Tag) :
    (s.readTag tag).2 = tagFault? tag ∧ (s.readTag tag).1.depth = s.depth ∧
      ∀ found, s.Holds found →
        (s.readTag tag).1.Holds (found ++ (feedUrl? tag).toList) := by
  have hfind := findUrl_attributes tag s.log
  rcases hfound : findUrl none s.log tag.attributes with ⟨result, log⟩
  rw [hfound] at hfind
  have hlogged : ∀ found, s.Holds found →
      Holds { s with log } (found ++ []) := by
    intro found h
    rw [List.append_nil]
    exact h
  rcases hlink : link? tag with _ | fault | url
  · rw [hlink] at hfind
    obtain rfl : result = .ok none := hfind
    simp only [readTag, hfound, tagFault?, feedUrl?, hlink, true_and]
    exact hlogged
  · rw [hlink] at hfind
    obtain rfl : result = .error fault := hfind
    simp only [readTag, hfound, tagFault?, feedUrl?, hlink, true_and]
    exact hlogged
  · rw [hlink] at hfind
    obtain rfl : result = .ok (some url) := hfind
    simp only [readTag, hfound, tagFault?, feedUrl?, hlink, addUrl_depth,
      true_and]
    intro found h
    have hadd := Holds.addUrl (s := { s with log }) h url
    by_cases hok : (Url.readFeedUrl url).isOk
    · rw [if_pos hok] at hadd ⊢
      exact hadd
    · rw [if_neg hok] at hadd ⊢
      exact hadd

end State

/-! ## Events -/

/-- The tag of an `outline` element that begins with an event. -/
def outline? (event : Event) : Option Tag :=
  event.tag?.filter fun tag => isOutline tag.name

/-- Whether an event opens an `outline` element in which others may stand. -/
def nests : Event → Bool
  | .opened tag => isOutline tag.name
  | _ => false

/-- The number of open `outline` elements behind an event, of which there are
`depth` before it. -/
def depthAfter (depth : ℕ) : Event → ℕ
  | .opened tag => if isOutline tag.name then depth + 1 else depth
  | .closed name => if isOutline name then depth - 1 else depth
  | _ => depth

/-- Why the reading ends at an event before which there are `depth` open
`outline` elements, if it does.  That there are too many of them counts
first. -/
def faultAt? (depth : ℕ) (event : Event) : Option Fault :=
  if nests event ∧ maxDepth ≤ depth then some (.tooDeep maxDepth)
  else (outline? event).bind tagFault?

/-- The URLs of feeds that an event names, which is one at most. -/
def namedBy (event : Event) : List String :=
  ((outline? event).bind feedUrl?).toList

theorem outline?_eq_some {event : Event} {tag : Tag}
    (h : outline? event = some tag) :
    isOutline tag.name ∧ (event = .opened tag ∨ event = .single tag) := by
  obtain ⟨htag, hname⟩ := Option.filter_eq_some_iff.mp h
  refine ⟨hname, ?_⟩
  cases event with
  | opened other => exact Or.inl (congrArg _ (Option.some.inj htag))
  | single other => exact Or.inr (congrArg _ (Option.some.inj htag))
  | _ => cases htag

/-- An event at which no `outline` element begins can only end one. -/
theorem State.step_of_outline?_eq_none (s : State) {event : Event}
    (h : outline? event = none) :
    nests event = false ∧
      s.step event = ({ s with depth := depthAfter s.depth event }, none) := by
  cases event with
  | opened tag =>
      have hname : isOutline tag.name = false := by
        simpa [outline?, Event.tag?] using h
      simp only [nests, State.step, depthAfter, hname, Bool.false_eq_true,
        if_false, and_self]
  | single tag =>
      have hname : isOutline tag.name = false := by
        simpa [outline?, Event.tag?] using h
      simp only [nests, State.step, depthAfter, hname, Bool.false_eq_true,
        if_false, and_self]
  | closed name =>
      simp only [nests, State.step, depthAfter, true_and]
      split <;> rfl
  | _ => exact ⟨rfl, rfl⟩

/-- What an event does to the reading. -/
theorem State.step_cases (s : State) (event : Event) :
    (s.step event).2 = faultAt? s.depth event ∧
      (s.step event).1.depth = depthAfter s.depth event ∧
      ∀ found, s.Holds found → faultAt? s.depth event = none →
        (s.step event).1.Holds (found ++ namedBy event) := by
  cases houtline : outline? event with
  | none =>
      obtain ⟨hnests, hstep⟩ := s.step_of_outline?_eq_none houtline
      simp only [hstep, faultAt?, hnests, namedBy, houtline,
        Bool.false_eq_true, false_and, if_false, Option.bind_none,
        Option.toList_none, List.append_nil, true_and]
      exact fun found h _ => h
  | some tag =>
      obtain ⟨hname, rfl | rfl⟩ := outline?_eq_some houtline
      · have hread := readTag_cases { s with depth := s.depth + 1 } tag
        simp only [State.step, faultAt?, nests, depthAfter, namedBy, houtline,
          hname, if_true, Option.bind_some, true_and, Nat.lt_succ_iff]
        by_cases hdeep : maxDepth ≤ s.depth
        · simp only [hdeep, if_true]
          exact ⟨trivial, trivial, fun found h hfault => by cases hfault⟩
        · simp only [hdeep, if_false]
          exact ⟨hread.1, hread.2.1, fun found h _ => hread.2.2 found h⟩
      · have hread := s.readTag_cases tag
        simp only [State.step, faultAt?, nests, depthAfter, namedBy, houtline,
          hname, if_true, Option.bind_some, Bool.false_eq_true, false_and,
          if_false]
        exact ⟨hread.1, hread.2.1, fun found h _ => hread.2.2 found h⟩

end Outline

end Newsstand
