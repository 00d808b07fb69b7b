import Newsstand.Proofs.Xml.Beginning
import Newsstand.Proofs.Xml.Continuation

/-!
# Markup in its place

A bracket begins markup where nothing before it is left unfinished, and every
piece of markup that is read from a document stands in such a place.  What comes
behind the piece is read alike whatever is read before it, as long as the same
elements are open.  So the events of a document in which one piece of markup is
exchanged differ by the events of that piece.
-/

namespace Newsstand.Xml

open Newsstand.Text

/-! ## Reading on -/

/-- A transcript behind some events. -/
def Transcript.behind (t : Transcript) (events : List Event) : Transcript :=
  ⟨events ++ t.events, t.fault⟩

theorem Transcript.behind_behind (t : Transcript) (events more : List Event) :
    (t.behind more).behind events = t.behind (events ++ more) := by
  simp [behind]

theorem readFrom_of_readMarkup_error {names : List (List Char)}
    {rest : List Char} {fault : Fault}
    (h : readMarkup names.head? rest = .error fault) (done : List Event) :
    readFrom names done ('<' :: rest) = ⟨done.reverse, some fault⟩ := by
  rw [readFrom, if_pos rfl]
  split
  next heq =>
      rw [h] at heq
      cases heq
      rfl
  next heq =>
      rw [h] at heq
      cases heq

/-- What is read of a text follows its pieces: the markup that a bracket begins
and the text before the next bracket. -/
@[elab_as_elim]
theorem reading_induction {motive : List (List Char) → List Char → Prop}
    (nil : ∀ names, motive names [])
    (fault : ∀ names rest fault, readMarkup names.head? rest = .error fault →
      motive names ('<' :: rest))
    (markup : ∀ names rest event rest',
      readMarkup names.head? rest = .ok (event, rest') →
      motive (event.openAfter names) rest' → motive names ('<' :: rest))
    (text : ∀ names c rest, c ≠ '<' →
      motive names (rest.dropWhile (· != '<')) → motive names (c :: rest))
    (names : List (List Char)) (cs : List Char) : motive names cs :=
  readFrom.induct (fun names _ cs => motive names cs) (fun names _ => nil names)
    (fun names _ rest fault' hread => fault names rest fault' hread)
    (fun names _ rest event rest' hread ih =>
      markup names rest event rest' hread ih)
    (fun names _ c rest hc ih => text names c rest hc ih) names [] cs

/-- What has been read before has no influence on what is read, but for the
names of the open elements. -/
theorem readFrom_eq_behind (names : List (List Char)) (done : List Event)
    (cs : List Char) :
    readFrom names done cs = (readFrom names [] cs).behind done.reverse := by
  induction names, cs using reading_induction generalizing done with
  | nil names => simp [readFrom, Transcript.behind]
  | fault names rest fault hread =>
      rw [readFrom_of_readMarkup_error hread, readFrom_of_readMarkup_error hread]
      simp [Transcript.behind]
  | markup names rest event rest' hread ih =>
      rw [readFrom_of_readMarkup hread, readFrom_of_readMarkup hread, ih,
        ih [event], Transcript.behind_behind, List.reverse_cons]
      rfl
  | text names c rest hc ih =>
      rw [readFrom_cons_of_ne hc, readFrom_cons_of_ne hc, ih, ih [_],
        Transcript.behind_behind, List.reverse_cons]
      rfl

/-- The events at the beginning of what is read follow its pieces. -/
@[elab_as_elim]
theorem beginning_induction
    {motive : List (List Char) → List Event → Prop}
    (nil : ∀ names, motive names [])
    (markup : ∀ names rest event rest' before,
      readMarkup names.head? rest = .ok (event, rest') →
      motive (event.openAfter names) before → motive names (event :: before))
    (text : ∀ names raw before, motive names before →
      motive names (.text raw :: before))
    {names : List (List Char)} {cs : List Char} {before : List Event}
    (h : before <+: (readFrom names [] cs).events) : motive names before := by
  induction names, cs using reading_induction generalizing before with
  | nil names =>
      rw [readFrom] at h
      obtain rfl := List.prefix_nil.mp h
      exact nil names
  | fault names rest fault hread =>
      rw [readFrom_of_readMarkup_error hread] at h
      obtain rfl := List.prefix_nil.mp h
      exact nil names
  | markup names rest event rest' hread ih =>
      rw [readFrom_of_readMarkup hread, readFrom_eq_behind] at h
      cases before with
      | nil => exact nil names
      | cons first before =>
          obtain ⟨rfl, hrest⟩ := List.cons_prefix_cons.mp h
          exact markup names rest first rest' before hread (ih hrest)
  | text names c rest hc ih =>
      rw [readFrom_cons_of_ne hc, readFrom_eq_behind] at h
      cases before with
      | nil => exact nil names
      | cons first before =>
          obtain ⟨rfl, hrest⟩ := List.cons_prefix_cons.mp h
          exact text names _ before (ih hrest)

/-! ## Places -/

/-- Behind the beginning of a document, which leaves no markup unfinished, a
bracket and some markup are read as one event. -/
structure Stands (before markup : List Char) (event : Event) : Prop where
  faultless : (read before).fault = none
  reads : readMarkup (openBehind (read before).events).head? markup =
    .ok (event, [])

variable {before markup : List Char} {event : Event}

/-- What stands behind a piece of markup is read as if there were nothing before
it but the open elements. -/
theorem Stands.read_eq (h : Stands before markup event) (after : List Char) :
    read (before ++ '<' :: (markup ++ after)) =
      (readFrom (event.openAfter (openBehind (read before).events)) []
        after).behind ((read before).events ++ [event]) := by
  have hmarkup := readMarkup_append h.reads after
  have hbegins : BeginsMarkup ('<' :: (markup ++ after)) := by
    intro c hc
    exact (Option.some.inj hc).symm
  rw [read_append hbegins h.faultless, readFrom_of_readMarkup hmarkup,
    readFrom_eq_behind, List.reverse_cons, List.reverse_reverse]
  rfl

/-- Markup that opens and closes nothing leaves what is behind it alone. -/
theorem Stands.read_eq_of_openAfter (h : Stands before markup event)
    (hopen : ∀ names, event.openAfter names = names) (after : List Char) :
    read (before ++ '<' :: (markup ++ after)) =
      (readFrom (openBehind (read before).events) [] after).behind
        ((read before).events ++ [event]) := by
  rw [h.read_eq, hopen]

/-- Where text ends, markup begins. -/
theorem beginsMarkup_of_dropWhile {rest before more : List Char}
    (h : rest.dropWhile (· != '<') = before ++ more) : BeginsMarkup before := by
  intro c hc
  have hhead := List.head?_dropWhile_not (· != '<') rest
  rw [h, List.head?_append, hc] at hhead
  simpa using hhead

/-- A piece of markup that is read from some text stands in it, and what comes
before it in the text is read alike. -/
theorem exists_place (names : List (List Char)) (cs : List Char)
    {events more : List Event}
    (hread : (readFrom names [] cs).events = events ++ event :: more)
    (hmarkup : ∀ raw, event ≠ .text raw) :
    ∃ before markup after, cs = before ++ '<' :: (markup ++ after) ∧
      readFrom names [] before = ⟨events, none⟩ ∧
      readMarkup (events.foldl (fun names event => event.openAfter names)
        names).head? markup = .ok (event, []) := by
  induction names, cs using reading_induction generalizing events with
  | nil names => simp [readFrom] at hread
  | fault names rest fault hfault =>
      simp [readFrom_of_readMarkup_error hfault] at hread
  | markup names rest first rest' hfirst ih =>
      rw [readFrom_of_readMarkup hfirst, readFrom_eq_behind] at hread
      obtain ⟨piece, rfl, hpiece⟩ := readMarkup_cut hfirst
      cases events with
      | nil =>
          obtain ⟨rfl, -⟩ := List.cons.inj hread
          exact ⟨[], piece, rest', rfl, by rw [readFrom]; rfl, hpiece⟩
      | cons other events =>
          obtain ⟨rfl, htail⟩ := List.cons.inj hread
          obtain ⟨before, markup, after, rfl, hbefore, hplace⟩ := ih htail
          refine ⟨'<' :: (piece ++ before), markup, after, by simp, ?_, hplace⟩
          rw [readFrom_of_readMarkup (readMarkup_append hpiece before),
            readFrom_eq_behind, List.nil_append, hbefore]
          rfl
  | text names c rest hc ih =>
      rw [readFrom_cons_of_ne hc, readFrom_eq_behind] at hread
      cases events with
      | nil =>
          obtain ⟨htext, -⟩ := List.cons.inj hread
          exact absurd htext.symm (hmarkup _)
      | cons other events =>
          obtain ⟨rfl, htail⟩ := List.cons.inj hread
          obtain ⟨before, markup, after, hdrop, hbefore, hplace⟩ := ih htail
          obtain ⟨htake, hrest⟩ := split_text_append
            (beginsMarkup_of_dropWhile hdrop) (rest.takeWhile (· != '<'))
          have hnone : (rest.takeWhile (· != '<')).dropWhile (· != '<') = [] :=
            List.dropWhile_eq_nil_iff.mpr fun d hd => by
              simpa using List.mem_takeWhile_imp hd
          refine ⟨c :: (rest.takeWhile (· != '<') ++ before), markup, after, ?_,
            ?_, hplace⟩
          · rw [List.cons_append, List.append_assoc, ← hdrop,
              List.takeWhile_append_dropWhile]
          · rw [readFrom_cons_of_ne hc, htake, hrest, hnone, List.takeWhile_idem,
              List.nil_append, readFrom_eq_behind, hbefore]
            rfl

/-- Every piece of markup that is read from a document stands in it. -/
theorem exists_stands {cs : List Char} {events more : List Event}
    (hread : (read cs).events = events ++ event :: more)
    (hmarkup : ∀ raw, event ≠ .text raw) :
    ∃ before markup after, cs = before ++ '<' :: (markup ++ after) ∧
      (read before).events = events ∧ Stands before markup event := by
  by_cases hmark : cs.head? = some '\uFEFF'
  · obtain ⟨rest, rfl⟩ := List.head?_eq_some_iff.mp hmark
    obtain ⟨before, markup, after, rfl, hbefore, hplace⟩ :=
      exists_place [] rest hread hmarkup
    have hwhole : read ('\uFEFF' :: before) = ⟨events, none⟩ := hbefore
    refine ⟨'\uFEFF' :: before, markup, after, rfl, ?_, ?_, ?_⟩
    · rw [hwhole]
    · rw [hwhole]
    · rw [hwhole]
      exact hplace
  · rw [read_eq_readFrom hmark] at hread
    obtain ⟨before, markup, after, rfl, hbefore, hplace⟩ :=
      exists_place [] cs hread hmarkup
    have hwhole : read before = ⟨events, none⟩ := by
      rw [read_eq_readFrom, hbefore]
      intro hhead
      rw [List.head?_append, hhead] at hmark
      exact hmark rfl
    refine ⟨before, markup, after, rfl, ?_, ?_, ?_⟩
    · rw [hwhole]
    · rw [hwhole]
    · rw [hwhole]
      exact hplace

end Newsstand.Xml
