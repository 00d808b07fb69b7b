import Mathlib.Logic.Function.Iterate
import Newsstand.Proofs.Xml.Elements
import Newsstand.Proofs.Xml.Place
import Newsstand.Proofs.Xml.Spelling

/-!
# Written elements

What is written is read back, wherever it stands: a text without brackets as one
text, and an element as its start tag, its content and its end tag.  Behind a
text some markup must follow, or else more text would be joined to it.  So nodes
are written one after another and in one another, and their events spell them.
-/

namespace Newsstand.Xml

/-- Wherever some characters stand with markup behind them, they are read as
these events. -/
def ReadsAs (cs : List Char) (events : List Event) : Prop :=
  ∀ names done more, BeginsMarkup more →
    readFrom names done (cs ++ more) =
      readFrom names (events.reverse ++ done) more

/-- An element with its tags around what is written in it. -/
def Tag.around (tag : Tag) (content : List Char) : List Char :=
  '<' :: (tag.content ++ '>' :: (content ++ '<' :: '/' :: (tag.name ++ ['>'])))

/-- The events of an element with those of what stands in it. -/
def Tag.enclose (tag : Tag) (events : List Event) : List Event :=
  .opened tag :: (events ++ [.closed tag.name])

/-- The tag as it is written is read as a start tag, and an end tag can close its
element. -/
structure Tag.Plain (tag : Tag) : Prop where
  opens : ∀ open?, readMarkup open? (tag.content ++ ['>']) =
    .ok (.opened tag, [])
  closes : Closable tag.name

/-- The events of a written text. -/
def textEvents (raw : List Char) : List Event :=
  if raw = [] then [] else [.text raw]

variable {cs rest : List Char} {events more : List Event} {tag : Tag}

theorem beginsMarkup_nil : BeginsMarkup [] := nofun

theorem beginsMarkup_cons (cs : List Char) : BeginsMarkup ('<' :: cs) := by
  intro c hc
  exact (Option.some.inj hc).symm

theorem BeginsMarkup.append (h : BeginsMarkup cs) (hrest : BeginsMarkup rest) :
    BeginsMarkup (cs ++ rest) := by
  cases cs with
  | nil => exact hrest
  | cons c cs => exact h

theorem Tag.beginsMarkup_around (tag : Tag) (content : List Char) :
    BeginsMarkup (tag.around content) :=
  beginsMarkup_cons _

/-- An element ends with its end tag, whatever comes behind it. -/
theorem readFrom_around (h : ReadsAs cs events) (htag : tag.Plain)
    (names : List (List Char)) (done : List Event) (after : List Char) :
    readFrom names done (tag.around cs ++ after) =
      readFrom names
        (.closed tag.name :: (events.reverse ++ .opened tag :: done)) after := by
  have hclosed : readMarkup (tag.name :: names).head?
      ('/' :: (tag.name ++ '>' :: after)) = .ok (.closed tag.name, after) :=
    htag.closes.readMarkup tag.isSpace_eq_false_of_mem_name after
  have hwritten : tag.around cs ++ after = '<' :: ((tag.content ++ ['>']) ++
      (cs ++ '<' :: '/' :: (tag.name ++ '>' :: after))) := by
    simp [Tag.around]
  rw [hwritten, readFrom_of_readMarkup (readMarkup_append (htag.opens _) _),
    List.nil_append, h _ _ _ (beginsMarkup_cons _), Event.openAfter,
    readFrom_of_readMarkup hclosed]
  rfl

namespace ReadsAs

theorem nil : ReadsAs [] [] := by
  intro names done more _
  rfl

theorem append (h : ReadsAs cs events) (hrest : ReadsAs rest more)
    (hbegins : BeginsMarkup rest) : ReadsAs (cs ++ rest) (events ++ more) := by
  intro names done after hafter
  rw [List.append_assoc, h _ _ _ (hbegins.append hafter), hrest _ _ _ hafter,
    List.reverse_append, List.append_assoc]

/-- A text without brackets is read as one text, or as nothing if it is empty. -/
theorem text {raw : List Char} (h : ∀ c ∈ raw, c ≠ '<') :
    ReadsAs raw (textEvents raw) := by
  intro names done more hmore
  cases raw with
  | nil => rfl
  | cons c raw =>
      obtain ⟨hc, hraw⟩ := List.forall_mem_cons.mp h
      obtain ⟨htake, hdrop⟩ := split_text_append hmore raw
      have hall : ∀ d ∈ raw, (d != '<') = true := fun d hd => by
        simpa using hraw d hd
      rw [List.cons_append, readFrom_cons_of_ne hc, htake, hdrop,
        List.takeWhile_eq_self_iff.mpr hall, List.dropWhile_eq_nil_iff.mpr hall]
      rfl

/-- A self-closing tag is read as such. -/
theorem single {markup : List Char}
    (h : ∀ open?, readMarkup open? markup = .ok (.single tag, [])) :
    ReadsAs ('<' :: markup) [.single tag] := by
  intro names done more _
  rw [List.cons_append, readFrom_of_readMarkup (readMarkup_append (h _) more)]
  rfl

/-- An element is read as its start tag, what stands in it and its end tag. -/
theorem around (h : ReadsAs cs events) (htag : tag.Plain) :
    ReadsAs (tag.around cs) (tag.enclose events) := by
  intro names done more _
  rw [readFrom_around h htag]
  simp [Tag.enclose]

/-- Elements may stand in one another. -/
theorem nest (h : ReadsAs cs events) (htag : tag.Plain) (n : ℕ) :
    ReadsAs (tag.around^[n] cs) (tag.enclose^[n] events) := by
  induction n generalizing cs events with
  | zero => exact h
  | succ n ih => exact ih (h.around htag)

/-- A whole document is read as it is read anywhere. -/
theorem read_eq (h : ReadsAs cs events) (hbegins : BeginsMarkup cs) :
    read cs = ⟨events, none⟩ := by
  have hmark : cs.head? ≠ some '\uFEFF' := fun hhead =>
    absurd (hbegins _ hhead) (by decide)
  have hread := h [] [] [] beginsMarkup_nil
  rw [List.append_nil, List.append_nil, readFrom, List.reverse_reverse] at hread
  rw [read_eq_readFrom hmark, hread]

end ReadsAs

theorem Tag.beginsMarkup_nest (tag : Tag) (hcs : BeginsMarkup cs) (n : ℕ) :
    BeginsMarkup (tag.around^[n] cs) := by
  induction n generalizing cs with
  | zero => exact hcs
  | succ n ih => exact ih (tag.beginsMarkup_around cs)

/-! ## Names of letters -/

section Letters

variable {name : List Char}

theorem splitTag_of_letters (h : ∀ c ∈ name, c.isAlpha) (done : List Char) :
    splitTag none done (name ++ ['>']) = some (done.reverse ++ name, []) := by
  induction name generalizing done with
  | nil => simp [splitTag]
  | cons c name ih =>
      obtain ⟨hc, hname⟩ := List.forall_mem_cons.mp h
      have hend : c ≠ '>' := by
        rintro rfl
        exact absurd hc (by decide)
      have hquote : ¬(c = '"' ∨ c = '\'') := by
        rintro (rfl | rfl)
        · exact absurd hc (by decide)
        · exact absurd hc (by decide)
      rw [List.cons_append, splitTag, if_neg hend, if_neg hquote, ih hname]
      simp

/-- A tag that is a name of letters is plain. -/
theorem plain_of_letters (hnil : name ≠ []) (h : ∀ c ∈ name, c.isAlpha) :
    (⟨name⟩ : Tag).Plain ∧ (⟨name⟩ : Tag).name = name := by
  have hsplit : splitTag none [] (name ++ ['>']) = some (name, []) :=
    splitTag_of_letters h []
  have hname : (⟨name⟩ : Tag).name = name := by
    refine List.takeWhile_eq_self_iff.mpr fun c hc => ?_
    cases hspace : isSpace c with
    | false => rfl
    | true =>
        simp only [isSpace, Bool.or_eq_true, beq_iff_eq] at hspace
        have hletter := h c hc
        rcases hspace with ((rfl | rfl) | rfl) | rfl <;>
          exact absurd hletter (by decide)
  refine ⟨⟨fun open? => ?_, ?_⟩, hname⟩
  · obtain ⟨c, more, rfl⟩ := List.exists_cons_of_ne_nil hnil
    have hc := h c List.mem_cons_self
    have hbegin : c ≠ '!' ∧ c ≠ '/' ∧ c ≠ '?' := by
      refine ⟨?_, ?_, ?_⟩ <;>
        · rintro rfl
          exact absurd hc (by decide)
    have hslash : (c :: more).getLast? ≠ some '/' := by
      intro hlast
      exact absurd (h _ (List.mem_of_getLast? hlast)) (by decide)
    rw [List.cons_append, readMarkup_eq_readStartTag hbegin, ← List.cons_append]
    simp only [readStartTag, hsplit, if_neg hslash]
  · rw [Closable, hname]
    exact hsplit

end Letters

/-! ## Nodes -/

/-- The nodes of a text. -/
def textNodes (cs : List Char) : List Node :=
  if cs = [] then [] else [.text cs]

theorem heightOf_textNodes (cs : List Char) : heightOf (textNodes cs) = 0 := by
  unfold textNodes
  split <;> rfl

/-- Wherever some characters stand with markup behind them, they are read as
events that spell these nodes. -/
def Writes (cs : List Char) (nodes : List Node) : Prop :=
  ∃ events, ReadsAs cs events ∧ Spells events nodes

namespace Writes

variable {nodes others : List Node}

theorem nil : Writes [] [] :=
  ⟨[], .nil, .nil⟩

theorem append (h : Writes cs nodes) (hrest : Writes rest others)
    (hbegins : BeginsMarkup rest) : Writes (cs ++ rest) (nodes ++ others) := by
  obtain ⟨events, hread, hspells⟩ := h
  obtain ⟨more, hreadRest, hspellsRest⟩ := hrest
  exact ⟨events ++ more, hread.append hreadRest hbegins,
    hspells.append hspellsRest⟩

theorem flatMap {α : Type} {f : α → List Char} {g : α → Node}
    (h : ∀ a, Writes (f a) [g a]) (hbegins : ∀ a, BeginsMarkup (f a))
    (as : List α) :
    Writes (as.flatMap f) (as.map g) ∧ BeginsMarkup (as.flatMap f) := by
  induction as with
  | nil => exact ⟨nil, beginsMarkup_nil⟩
  | cons a as ih =>
      obtain ⟨hwrites, hmarkup⟩ := ih
      exact ⟨(h a).append hwrites hmarkup, (hbegins a).append hmarkup⟩

/-- A text is written with references in place of the characters that would be
taken for markup. -/
theorem text (cs : List Char) : Writes (escape cs) (textNodes cs) := by
  refine ⟨textEvents (escape cs), .text fun c hc => ne_of_mem_escape hc, ?_⟩
  cases cs with
  | nil => exact .nil
  | cons c cs =>
      have hwritten : escape (c :: cs) ≠ [] := by
        intro hnil
        have hresolve := resolve_escape (c :: cs)
        rw [hnil, resolve, resolveFrom] at hresolve
        cases hresolve
      rw [textEvents, if_neg hwritten]
      exact .text (resolve_escape _) .nil

theorem around (h : Writes cs nodes) (htag : tag.Plain) :
    Writes (tag.around cs) [.element tag nodes] := by
  obtain ⟨events, hread, hspells⟩ := h
  exact ⟨tag.enclose events, hread.around htag, .element hspells .nil⟩

end Writes

end Newsstand.Xml
