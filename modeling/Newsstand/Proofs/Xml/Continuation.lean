import Mathlib.Data.List.Induction
import Mathlib.Data.List.TakeWhile
import Newsstand.Proofs.Xml.Cutting
import Newsstand.Proofs.Xml.Level

/-!
# Documents that go on

What has been read of a document stays as it is when more comes behind it: each
piece of markup ends where it ends, and the text at the end of a document ends
at the next bracket.  A document that ends with elements open can therefore be
completed by their end tags, and what it holds is read as before.
-/

namespace Newsstand.Xml

open Newsstand.Text

/-! ## Pieces of markup -/

section Pieces

variable {done cs body rest : List Char}

theorem splitTag_append {quote : Option Char}
    (h : splitTag quote done cs = some (body, rest)) (more : List Char) :
    splitTag quote done (cs ++ more) = some (body, rest ++ more) := by
  induction cs generalizing quote done with
  | nil => cases h
  | cons c cs ih =>
      rw [List.cons_append]
      simp only [splitTag] at h ⊢
      split at h
      next =>
          split at h
          next hend =>
              cases h
              exact if_pos hend
          next hend =>
              rw [if_neg hend]
              split at h
              next hquote =>
                  rw [if_pos hquote]
                  exact ih h
              next hquote =>
                  rw [if_neg hquote]
                  exact ih h
      next q =>
          split at h
          next hquote =>
              simp only [if_pos hquote]
              exact ih h
          next hquote =>
              simp only [if_neg hquote]
              exact ih h

theorem splitAtBracket_append {ends : ℕ → List Char → Bool} {count : ℕ}
    (h : splitAtBracket ends count done cs = some (body, rest))
    (more : List Char) :
    splitAtBracket ends count done (cs ++ more) = some (body, rest ++ more) := by
  induction cs generalizing count done with
  | nil => cases h
  | cons c cs ih =>
      rw [List.cons_append]
      simp only [splitAtBracket] at h ⊢
      split at h
      next hend =>
          cases h
          exact if_pos hend
      next hend =>
          rw [if_neg hend]
          exact ih h

theorem splitDoctype_append {depth : Int}
    (h : splitDoctype depth done cs = some (body, rest)) (more : List Char) :
    splitDoctype depth done (cs ++ more) = some (body, rest ++ more) := by
  induction cs generalizing depth done with
  | nil => cases h
  | cons c cs ih =>
      rw [List.cons_append]
      simp only [splitDoctype] at h ⊢
      split at h
      next hbracket =>
          rw [if_pos hbracket]
          split at h
          next hdepth =>
              cases h
              exact if_pos hdepth
          next hdepth =>
              rw [if_neg hdepth]
              exact ih h
      next hbracket =>
          rw [if_neg hbracket]
          exact ih h

variable {event : Event}

theorem readComment_append (h : readComment cs = .ok (event, rest))
    (more : List Char) :
    readComment (cs ++ more) = .ok (event, rest ++ more) := by
  unfold readComment at h
  split at h
  next hsplit =>
      cases h
      simp only [readComment, splitAtBracket_append hsplit more]
  next => cases h

theorem readCData_append (h : readCData cs = .ok (event, rest))
    (more : List Char) :
    readCData (cs ++ more) = .ok (event, rest ++ more) := by
  unfold readCData at h
  split at h
  next hsplit =>
      split at h
      next hbody =>
          cases h
          simp only [readCData, splitAtBracket_append hsplit more, if_pos hbody]
      next => cases h
  next => cases h

theorem readDoctype_append (h : readDoctype cs = .ok (event, rest))
    (more : List Char) :
    readDoctype (cs ++ more) = .ok (event, rest ++ more) := by
  unfold readDoctype at h
  split at h
  next hsplit =>
      split at h
      next hbody =>
          simp only [readDoctype, splitDoctype_append hsplit more, if_pos hbody]
          split at h
          next => cases h
          next =>
              cases h
              rfl
      next => cases h
  next => cases h

theorem readInstruction_append (h : readInstruction cs = .ok (event, rest))
    (more : List Char) :
    readInstruction (cs ++ more) = .ok (event, rest ++ more) := by
  unfold readInstruction at h
  split at h
  next hsplit =>
      cases h
      simp only [readInstruction, splitAtBracket_append hsplit more]
  next => cases h

theorem readEndTag_append {open? : Option (List Char)}
    (h : readEndTag open? cs = .ok (event, rest)) (more : List Char) :
    readEndTag open? (cs ++ more) = .ok (event, rest ++ more) := by
  unfold readEndTag at h
  split at h
  next => cases h
  next hsplit =>
      split at h
      next => cases h
      next =>
          split at h
          next hname =>
              cases h
              simp only [readEndTag, splitTag_append hsplit more, if_pos hname]
          next => cases h

theorem readStartTag_append (h : readStartTag cs = .ok (event, rest))
    (more : List Char) :
    readStartTag (cs ++ more) = .ok (event, rest ++ more) := by
  unfold readStartTag at h
  split at h
  next => cases h
  next hsplit =>
      simp only [readStartTag, splitTag_append hsplit more]
      split at h
      next hslash =>
          cases h
          exact if_pos hslash
      next hslash =>
          cases h
          exact if_neg hslash

theorem readMarkup_append {open? : Option (List Char)}
    (h : readMarkup open? cs = .ok (event, rest)) (more : List Char) :
    readMarkup open? (cs ++ more) = .ok (event, rest ++ more) := by
  unfold readMarkup at h
  split at h
  next => cases h
  next => exact readComment_append h more
  next => exact readCData_append h more
  next => exact readDoctype_append h more
  next => exact readDoctype_append h more
  next => cases h
  next => exact readEndTag_append h more
  next => exact readInstruction_append h more
  next hnil _ _ _ _ hmark hslash hquestion =>
      obtain ⟨c, cs, rfl⟩ := List.exists_cons_of_ne_nil hnil
      have hbegin : c ≠ '!' ∧ c ≠ '/' ∧ c ≠ '?' := by
        refine ⟨?_, ?_, ?_⟩
        · rintro rfl
          exact hmark _ rfl
        · rintro rfl
          exact hslash _ rfl
        · rintro rfl
          exact hquestion _ rfl
      rw [List.cons_append, readMarkup_eq_readStartTag hbegin]
      exact readStartTag_append h more

end Pieces

/-! ## Whole documents -/

/-- The names of the elements that are open behind some events, the innermost
first. -/
def openBehind (events : List Event) : List (List Char) :=
  events.foldl (fun names event => event.openAfter names) []

theorem openBehind_concat (events : List Event) (event : Event) :
    openBehind (events ++ [event]) = event.openAfter (openBehind events) :=
  List.foldl_append

/-- The level is the number of open names. -/
theorem length_openBehind (events : List Event) :
    (openBehind events).length = levelBehind 0 events := by
  induction events using List.reverseRecOn with
  | nil => rfl
  | append_singleton events event ih =>
      rw [openBehind_concat, levelBehind_concat, length_openAfter, ih]

/-- As many end tags as there are open elements leave none open. -/
theorem openBehind_append_closed (events : List Event) :
    openBehind (events ++ (openBehind events).map .closed) = [] := by
  have hclosed (names : List (List Char)) :
      (names.map Event.closed).foldl (fun names event => event.openAfter names)
        names = [] := by
    induction names with
    | nil => rfl
    | cons name names ih => exact ih
  rw [openBehind, List.foldl_append]
  exact hclosed _

/-- More of a document that begins with a bracket, or nothing. -/
def BeginsMarkup (more : List Char) : Prop :=
  ∀ c ∈ more.head?, c = '<'

/-- Text that ends a document is ended by a bracket behind it too. -/
theorem split_text_append {more : List Char} (hmore : BeginsMarkup more)
    (rest : List Char) :
    (rest ++ more).takeWhile (· != '<') = rest.takeWhile (· != '<') ∧
      (rest ++ more).dropWhile (· != '<') =
        rest.dropWhile (· != '<') ++ more := by
  induction rest with
  | nil =>
      cases more with
      | nil => exact ⟨rfl, rfl⟩
      | cons c more =>
          obtain rfl : c = '<' := hmore c rfl
          exact ⟨rfl, rfl⟩
  | cons c rest ih =>
      by_cases hc : (c != '<') = true
      · simp only [List.cons_append, List.takeWhile_cons, List.dropWhile_cons,
          if_pos hc, ih.1, ih.2, and_self]
      · simp only [List.cons_append, List.takeWhile_cons, List.dropWhile_cons,
          if_neg hc, and_self]

/-- A piece of markup is passed. -/
theorem readFrom_of_readMarkup {names : List (List Char)}
    {rest rest' : List Char} {event : Event}
    (h : readMarkup names.head? rest = .ok (event, rest')) (done : List Event) :
    readFrom names done ('<' :: rest) =
      readFrom (event.openAfter names) (event :: done) rest' := by
  rw [readFrom, if_pos rfl]
  split
  next heq =>
      rw [h] at heq
      cases heq
  next heq =>
      rw [h] at heq
      cases heq
      rfl

/-- Behind a document without a fault, reading goes on where it stopped. -/
theorem readFrom_append (names : List (List Char)) (done : List Event)
    (cs : List Char) {more : List Char} (hmore : BeginsMarkup more)
    (hnames : names = openBehind done.reverse)
    (hfault : (readFrom names done cs).fault = none) :
    readFrom names done (cs ++ more) =
      readFrom (openBehind (readFrom names done cs).events)
        (readFrom names done cs).events.reverse more := by
  fun_induction readFrom names done cs with
  | case1 names done =>
      rw [List.nil_append, hnames, List.reverse_reverse]
  | case2 names done rest fault hread => cases hfault
  | case3 names done rest event rest' hread ih =>
      rw [← ih ?_ hfault, List.cons_append,
        readFrom_of_readMarkup (readMarkup_append hread more)]
      rw [List.reverse_cons, openBehind_concat, hnames]
  | case4 names done c rest hc ih =>
      obtain ⟨htake, hdrop⟩ := split_text_append hmore rest
      rw [← ih ?_ hfault, List.cons_append, readFrom, if_neg hc, htake, hdrop]
      rw [List.reverse_cons, openBehind_concat, hnames]
      rfl

/-- A byte order mark is skipped at the start only. -/
theorem read_eq_readFrom {cs : List Char} (h : cs.head? ≠ some '\uFEFF') :
    read cs = readFrom [] [] cs := by
  unfold read
  split
  next => exact absurd rfl h
  next => rfl

theorem read_append {cs more : List Char} (hmore : BeginsMarkup more)
    (hfault : (read cs).fault = none) :
    read (cs ++ more) =
      readFrom (openBehind (read cs).events) (read cs).events.reverse more := by
  by_cases hmark : cs.head? = some '\uFEFF'
  · obtain ⟨rest, rfl⟩ := List.head?_eq_some_iff.mp hmark
    exact readFrom_append [] [] rest hmore rfl hfault
  · have hboth : (cs ++ more).head? ≠ some '\uFEFF' := by
      intro hhead
      cases cs with
      | nil =>
          have hbracket := hmore _ hhead
          exact absurd hbracket (by decide)
      | cons c cs => exact hmark hhead
    rw [read_eq_readFrom hmark] at hfault ⊢
    rw [read_eq_readFrom hboth]
    exact readFrom_append [] [] cs hmore rfl hfault

/-! ## Completing a document -/

/-- The end tags of some names. -/
def endTags (names : List (List Char)) : List Char :=
  names.flatMap fun name => '<' :: '/' :: (name ++ ['>'])

/-- A tag that ends in a name can be closed behind it, since no quote stands
open in the name. -/
def Closable (name : List Char) : Prop :=
  splitTag none [] (name ++ ['>']) = some (name, [])

instance (name : List Char) : Decidable (Closable name) :=
  inferInstanceAs (Decidable (_ = _))

theorem beginsMarkup_endTags (names : List (List Char)) :
    BeginsMarkup (endTags names) := by
  intro c hc
  cases names with
  | nil => cases hc
  | cons name names => exact (Option.some.inj hc).symm

/-- What has been passed before makes no difference to where a tag ends. -/
theorem splitTag_eq_map (quote : Option Char) (done cs : List Char) :
    splitTag quote done cs =
      (splitTag quote [] cs).map fun p => (done.reverse ++ p.1, p.2) := by
  induction cs generalizing quote done with
  | nil => rfl
  | cons c cs ih =>
      have hcons (quote : Option Char) :
          splitTag quote (c :: done) cs =
            (splitTag quote [c] cs).map fun p => (done.reverse ++ p.1, p.2) := by
        rw [ih quote (c :: done), ih quote [c], Option.map_map]
        simp [Function.comp_def]
      simp only [splitTag, hcons]
      split
      next =>
          split
          next => simp
          next => split <;> rfl
      next => split <;> rfl

theorem Closable.splitTag {name : List Char} (h : Closable name)
    (rest : List Char) :
    splitTag none [] ('/' :: (name ++ '>' :: rest)) =
      some ('/' :: name, rest) := by
  have hname := splitTag_append h rest
  rw [List.append_assoc, List.singleton_append, List.nil_append] at hname
  have hslash : Xml.splitTag none [] ('/' :: (name ++ '>' :: rest)) =
      Xml.splitTag none ['/'] (name ++ '>' :: rest) := rfl
  rw [hslash, splitTag_eq_map, hname]
  rfl

theorem Tag.isSpace_eq_false_of_mem_name (tag : Tag) :
    ∀ c ∈ tag.name, isSpace c = false := by
  intro c hc
  simpa using List.mem_takeWhile_imp hc

/-- The name of an open element is what comes before the first space of its
tag. -/
theorem isSpace_eq_false_of_mem_openBehind (events : List Event) :
    ∀ name ∈ openBehind events, ∀ c ∈ name, isSpace c = false := by
  induction events using List.reverseRecOn with
  | nil => simp [openBehind]
  | append_singleton events event ih =>
      rw [openBehind_concat]
      intro name hname
      cases event with
      | opened tag =>
          rcases List.mem_cons.mp hname with rfl | hname
          · exact tag.isSpace_eq_false_of_mem_name
          · exact ih name hname
      | closed other => exact ih name (List.mem_of_mem_tail hname)
      | _ => exact ih name hname

theorem endTagName_slash {name : List Char}
    (h : ∀ c ∈ name, isSpace c = false) : endTagName ('/' :: name) = name := by
  have hdrop : dropEndWhile isSpace name = name := by
    rw [dropEndWhile, List.dropWhile_eq_self_iff.mpr ?_, List.reverse_reverse]
    intro hlength
    have hmem := List.getElem_mem hlength
    rw [h _ (List.mem_reverse.mp hmem)]
    exact Bool.false_ne_true
  simp only [endTagName, List.drop_succ_cons, List.drop_zero, hdrop, ite_self]

/-- The end tag of the innermost open element is read as such. -/
theorem Closable.readMarkup {name : List Char} (h : Closable name)
    (hspace : ∀ c ∈ name, isSpace c = false) (rest : List Char) :
    readMarkup (some name) ('/' :: (name ++ '>' :: rest)) =
      .ok (.closed name, rest) := by
  simp only [Xml.readMarkup, readEndTag, h.splitTag, endTagName_slash hspace,
    if_true]

/-- The end tags of the open elements are read as such. -/
theorem readFrom_endTags {names : List (List Char)} (done : List Event)
    (hnames : ∀ name ∈ names, Closable name ∧ ∀ c ∈ name, isSpace c = false) :
    readFrom names done (endTags names) =
      ⟨done.reverse ++ names.map .closed, none⟩ := by
  induction names generalizing done with
  | nil =>
      rw [endTags, List.flatMap_nil, readFrom, List.map_nil, List.append_nil]
  | cons name names ih =>
      obtain ⟨⟨hclosable, hspace⟩, hrest⟩ := List.forall_mem_cons.mp hnames
      have htags : endTags (name :: names) =
          '<' :: '/' :: (name ++ '>' :: endTags names) := by
        simp [endTags]
      have hread : readMarkup (name :: names).head?
          ('/' :: (name ++ '>' :: endTags names)) =
            .ok (.closed name, endTags names) := hclosable.readMarkup hspace _
      rw [htags, readFrom_of_readMarkup hread, Event.openAfter, List.tail_cons,
        ih _ hrest, List.reverse_cons, List.append_assoc, List.map_cons]
      rfl

/-- A document that ends with elements open is completed by their end tags.
Nothing else is read differently. -/
theorem read_completed {cs : List Char} (hfault : (read cs).fault = none)
    (hclosable : ∀ name ∈ openBehind (read cs).events, Closable name) :
    read (cs ++ endTags (openBehind (read cs).events)) =
      ⟨(read cs).events ++ (openBehind (read cs).events).map .closed, none⟩ := by
  rw [read_append (beginsMarkup_endTags _) hfault, readFrom_endTags,
    List.reverse_reverse]
  intro name hname
  exact ⟨hclosable name hname,
    isSpace_eq_false_of_mem_openBehind _ name hname⟩

end Newsstand.Xml
