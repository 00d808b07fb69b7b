import Newsstand.Xml.Event

/-!
# Markup without what comes behind it

A piece of markup ends where it ends: it is read alike when all that comes
behind it is cut off.  What kind of markup it is shows in its first two
characters, which belong to it.
-/

namespace Newsstand.Xml

/-! ## Where pieces end -/

variable {done cs body rest : List Char}

theorem splitTag_cut {quote : Option Char}
    (h : splitTag quote done cs = some (body, rest)) :
    ∃ piece, cs = piece ++ rest ∧
      splitTag quote done piece = some (body, []) := by
  induction cs generalizing quote done with
  | nil => cases h
  | cons c cs ih =>
      simp only [splitTag] at h
      split at h
      next =>
          split at h
          next hend =>
              cases h
              exact ⟨[c], rfl, if_pos hend⟩
          next hend =>
              split at h
              next hquote =>
                  obtain ⟨piece, rfl, hpiece⟩ := ih h
                  refine ⟨c :: piece, rfl, ?_⟩
                  simp only [splitTag, if_neg hend, if_pos hquote, hpiece]
              next hquote =>
                  obtain ⟨piece, rfl, hpiece⟩ := ih h
                  refine ⟨c :: piece, rfl, ?_⟩
                  simp only [splitTag, if_neg hend, if_neg hquote, hpiece]
      next q =>
          split at h
          next hquote =>
              obtain ⟨piece, rfl, hpiece⟩ := ih h
              refine ⟨c :: piece, rfl, ?_⟩
              simp only [splitTag, if_pos hquote, hpiece]
          next hquote =>
              obtain ⟨piece, rfl, hpiece⟩ := ih h
              refine ⟨c :: piece, rfl, ?_⟩
              simp only [splitTag, if_neg hquote, hpiece]

theorem splitAtBracket_cut {ends : Nat → List Char → Bool} {count : Nat}
    (h : splitAtBracket ends count done cs = some (body, rest)) :
    ∃ piece, cs = piece ++ rest ∧
      splitAtBracket ends count done piece = some (body, []) := by
  induction cs generalizing count done with
  | nil => cases h
  | cons c cs ih =>
      simp only [splitAtBracket] at h
      split at h
      next hend =>
          cases h
          exact ⟨[c], rfl, if_pos hend⟩
      next hend =>
          obtain ⟨piece, rfl, hpiece⟩ := ih h
          refine ⟨c :: piece, rfl, ?_⟩
          rw [splitAtBracket, if_neg hend, hpiece]

theorem splitDoctype_cut {depth : Int}
    (h : splitDoctype depth done cs = some (body, rest)) :
    ∃ piece, cs = piece ++ rest ∧
      splitDoctype depth done piece = some (body, []) := by
  induction cs generalizing depth done with
  | nil => cases h
  | cons c cs ih =>
      simp only [splitDoctype] at h
      split at h
      next hbracket =>
          split at h
          next hdepth =>
              cases h
              refine ⟨[c], rfl, ?_⟩
              simp only [splitDoctype, if_pos hbracket, if_pos hdepth]
          next hdepth =>
              obtain ⟨piece, rfl, hpiece⟩ := ih h
              refine ⟨c :: piece, rfl, ?_⟩
              simp only [splitDoctype, if_pos hbracket, if_neg hdepth, hpiece]
      next hbracket =>
          obtain ⟨piece, rfl, hpiece⟩ := ih h
          refine ⟨c :: piece, rfl, ?_⟩
          simp only [splitDoctype, if_neg hbracket, hpiece]

/-! ## Pieces of each kind -/

variable {event : Event}

theorem readComment_cut (h : readComment cs = .ok (event, rest)) :
    ∃ piece, cs = piece ++ rest ∧ readComment piece = .ok (event, []) := by
  unfold readComment at h
  split at h
  next hsplit =>
      cases h
      obtain ⟨piece, rfl, hpiece⟩ := splitAtBracket_cut hsplit
      exact ⟨piece, rfl, by simp only [readComment, hpiece]⟩
  next => cases h

theorem readCData_cut (h : readCData cs = .ok (event, rest)) :
    ∃ piece, cs = piece ++ rest ∧ readCData piece = .ok (event, []) := by
  unfold readCData at h
  split at h
  next hsplit =>
      split at h
      next hbody =>
          cases h
          obtain ⟨piece, rfl, hpiece⟩ := splitAtBracket_cut hsplit
          exact ⟨piece, rfl, by simp only [readCData, hpiece, if_pos hbody]⟩
      next => cases h
  next => cases h

theorem readDoctype_cut (h : readDoctype cs = .ok (event, rest)) :
    ∃ piece, cs = piece ++ rest ∧ readDoctype piece = .ok (event, []) := by
  unfold readDoctype at h
  split at h
  next hsplit =>
      split at h
      next hbody =>
          obtain ⟨piece, hcs, hpiece⟩ := splitDoctype_cut hsplit
          refine ⟨piece, ?_⟩
          simp only [readDoctype, hpiece, if_pos hbody]
          split at h
          next => cases h
          next =>
              cases h
              exact ⟨hcs, rfl⟩
      next => cases h
  next => cases h

theorem readInstruction_cut (h : readInstruction cs = .ok (event, rest)) :
    ∃ piece, cs = piece ++ rest ∧ readInstruction piece = .ok (event, []) := by
  unfold readInstruction at h
  split at h
  next hsplit =>
      cases h
      obtain ⟨piece, rfl, hpiece⟩ := splitAtBracket_cut hsplit
      exact ⟨piece, rfl, by simp only [readInstruction, hpiece]⟩
  next => cases h

theorem readEndTag_cut {open? : Option (List Char)}
    (h : readEndTag open? cs = .ok (event, rest)) :
    ∃ piece, cs = piece ++ rest ∧ readEndTag open? piece = .ok (event, []) := by
  unfold readEndTag at h
  split at h
  next => cases h
  next hsplit =>
      split at h
      next => cases h
      next =>
          split at h
          next hname =>
              cases h
              obtain ⟨piece, rfl, hpiece⟩ := splitTag_cut hsplit
              refine ⟨piece, rfl, ?_⟩
              simp only [readEndTag, hpiece, if_pos hname]
          next => cases h

theorem readStartTag_cut (h : readStartTag cs = .ok (event, rest)) :
    ∃ piece, cs = piece ++ rest ∧ readStartTag piece = .ok (event, []) := by
  unfold readStartTag at h
  split at h
  next => cases h
  next hsplit =>
      obtain ⟨piece, rfl, hpiece⟩ := splitTag_cut hsplit
      split at h
      next hslash =>
          cases h
          exact ⟨piece, rfl, by simp only [readStartTag, hpiece, if_pos hslash]⟩
      next hslash =>
          cases h
          exact ⟨piece, rfl, by simp only [readStartTag, hpiece, if_neg hslash]⟩

/-- A piece that is cut off begins as the whole does. -/
theorem exists_cons_of_cut {f : List Char → Piece} {c : Char}
    {piece : List Char} (hcs : c :: cs = piece ++ rest)
    (hpiece : f piece = .ok (event, [])) (hnil : ∀ p, f [] ≠ .ok p) :
    ∃ more, piece = c :: more ∧ cs = more ++ rest := by
  cases piece with
  | nil => exact absurd hpiece (hnil _)
  | cons d piece =>
      obtain ⟨rfl, htail⟩ := List.cons.inj hcs
      exact ⟨piece, rfl, htail⟩

/-- What follows an exclamation mark tells what the markup is, so it belongs to
the piece. -/
theorem exists_cons_cons_of_cut {f : List Char → Piece} {c : Char}
    {piece : List Char} (hcs : '!' :: c :: cs = piece ++ rest)
    (hpiece : f piece = .ok (event, [])) (hnil : ∀ p, f [] ≠ .ok p)
    (hone : ∀ p, f ['!'] ≠ .ok p) : ∃ more, piece = '!' :: c :: more := by
  obtain ⟨more, rfl, hmore⟩ := exists_cons_of_cut hcs hpiece hnil
  obtain ⟨more, rfl, -⟩ :=
    exists_cons_of_cut (f := fun more => f ('!' :: more)) hmore hpiece hone
  exact ⟨more, rfl⟩

theorem readMarkup_eq_readStartTag {c : Char}
    (hc : c ≠ '!' ∧ c ≠ '/' ∧ c ≠ '?') (open? : Option (List Char))
    (cs : List Char) : readMarkup open? (c :: cs) = readStartTag (c :: cs) := by
  unfold readMarkup
  split <;> simp_all

/-- A piece of markup is read without what comes behind it. -/
theorem readMarkup_cut {open? : Option (List Char)}
    (h : readMarkup open? cs = .ok (event, rest)) :
    ∃ piece, cs = piece ++ rest ∧
      readMarkup open? piece = .ok (event, []) := by
  unfold readMarkup at h
  split at h
  next => cases h
  next =>
      obtain ⟨piece, hcs, hpiece⟩ := readComment_cut h
      obtain ⟨more, rfl⟩ := exists_cons_cons_of_cut hcs hpiece nofun nofun
      exact ⟨_, hcs, hpiece⟩
  next =>
      obtain ⟨piece, hcs, hpiece⟩ := readCData_cut h
      obtain ⟨more, rfl⟩ := exists_cons_cons_of_cut hcs hpiece nofun nofun
      exact ⟨_, hcs, hpiece⟩
  next =>
      obtain ⟨piece, hcs, hpiece⟩ := readDoctype_cut h
      obtain ⟨more, rfl⟩ := exists_cons_cons_of_cut hcs hpiece nofun nofun
      exact ⟨_, hcs, hpiece⟩
  next =>
      obtain ⟨piece, hcs, hpiece⟩ := readDoctype_cut h
      obtain ⟨more, rfl⟩ := exists_cons_cons_of_cut hcs hpiece nofun nofun
      exact ⟨_, hcs, hpiece⟩
  next => cases h
  next =>
      obtain ⟨piece, hcs, hpiece⟩ := readEndTag_cut h
      obtain ⟨more, rfl, -⟩ := exists_cons_of_cut hcs hpiece nofun
      exact ⟨_, hcs, hpiece⟩
  next =>
      obtain ⟨piece, hcs, hpiece⟩ := readInstruction_cut h
      obtain ⟨more, rfl, -⟩ := exists_cons_of_cut hcs hpiece nofun
      exact ⟨_, hcs, hpiece⟩
  next hnil _ _ _ _ hmark hslash hquestion =>
      obtain ⟨c, cs, rfl⟩ := List.exists_cons_of_ne_nil hnil
      obtain ⟨piece, hcs, hpiece⟩ := readStartTag_cut h
      obtain ⟨more, rfl, -⟩ := exists_cons_of_cut hcs hpiece nofun
      refine ⟨_, hcs, ?_⟩
      rw [readMarkup_eq_readStartTag ?_, hpiece]
      refine ⟨?_, ?_, ?_⟩
      · rintro rfl
        exact hmark _ rfl
      · rintro rfl
        exact hslash _ rfl
      · rintro rfl
        exact hquestion _ rfl

end Newsstand.Xml
