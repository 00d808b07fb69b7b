import Mathlib.Data.List.TakeWhile
import Newsstand.Proofs.Xml.Level
import Newsstand.Proofs.Xml.References

/-!
# How documents begin

One byte order mark at the start of a document is skipped.  A second one is text
before the root element, and no blank.  A document without a bracket is one
text, so it has no root element.
-/

namespace Newsstand.Xml

open Newsstand.Text

/-- The events that have been read stay. -/
theorem prefix_readFrom (openNames : List (List Char)) (done : List Event)
    (cs : List Char) :
    done.reverse <+: (readFrom openNames done cs).events := by
  fun_induction readFrom openNames done cs with
  | case1 openNames done => exact List.prefix_rfl
  | case2 openNames done rest fault hread => exact List.prefix_rfl
  | case3 openNames done rest event rest' hread ih =>
      exact prefix_of_reverse_cons ih
  | case4 openNames done c rest hc ih => exact prefix_of_reverse_cons ih

theorem readFrom_cons_of_ne {c : Char} (hc : c ≠ '<')
    (openNames : List (List Char)) (done : List Event) (rest : List Char) :
    readFrom openNames done (c :: rest) =
      readFrom openNames (.text (c :: rest.takeWhile (· != '<')) :: done)
        (rest.dropWhile (· != '<')) := by
  rw [readFrom, if_neg hc]

/-- A document that does not begin with a bracket begins with text. -/
theorem exists_text_of_ne {c : Char} (hc : c ≠ '<') (rest : List Char) :
    ∃ raw events,
      (readFrom [] [] (c :: rest)).events = .text (c :: raw) :: events := by
  rw [readFrom_cons_of_ne hc]
  obtain ⟨events, hevents⟩ := prefix_readFrom []
    [.text (c :: rest.takeWhile (· != '<'))] (rest.dropWhile (· != '<'))
  exact ⟨_, events, hevents.symm⟩

theorem read_cons_of_ne {c : Char} (hc : c ≠ '\uFEFF') (rest : List Char) :
    read (c :: rest) = readFrom [] [] (c :: rest) := by
  unfold read
  split
  next heq =>
      cases heq
      exact absurd rfl hc
  next => rfl

/-- A document of blanks alone has no element. -/
theorem topCount_read_of_blank {cs : List Char} (h : cs.all isBlank) :
    topCount 0 (read cs).events = 0 := by
  cases cs with
  | nil => simp [read, readFrom, topCount, levelled]
  | cons c rest =>
      rw [List.all_cons, Bool.and_eq_true] at h
      have hne (d : Char) (hd : isBlank d = false) : c ≠ d := by
        rintro rfl
        rw [h.1] at hd
        cases hd
      have hbracket : ∀ d ∈ rest, (d != '<') = true := by
        intro d hd
        have hblank := List.all_eq_true.mp h.2 d hd
        rw [bne_iff_ne]
        rintro rfl
        exact absurd hblank (by decide)
      rw [read_cons_of_ne (hne _ (by decide)),
        readFrom_cons_of_ne (hne _ (by decide)),
        List.dropWhile_eq_nil_iff.mpr hbracket, readFrom]
      rfl

end Newsstand.Xml
