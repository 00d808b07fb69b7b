import Newsstand.Proofs.Toml.Keys

/-!
# Entries of a text

Each reader of the grammar keeps keys distinct, up to the reader of the whole
text: where a text can be read, every table in it has each key once.  A blank
text has no entries.
-/

namespace Newsstand.Toml

open Reader

/-! ## Values -/

theorem numeric_gives : numeric.Gives Value.Distinct := by
  refine gives_bind fun start => Gives.orElse ?_ (Gives.orElse ?_ ?_)
  · exact gives_bind fun _ => gives_pure (.date start)
  · exact gives_bind fun _ => gives_pure (.float start)
  · exact gives_bind fun n => gives_pure (.integer start n)

theorem scalar_gives : scalar.Gives Value.Distinct := by
  refine gives_bind fun start => gives_bind fun next? => ?_
  split
  · exact gives_bind fun _ => gives_pure (.string start _)
  · exact gives_bind fun _ => gives_pure (.string start _)
  · exact gives_bind fun _ => gives_pure (.boolean start true)
  · exact gives_bind fun _ => gives_pure (.boolean start false)
  · exact gives_bind fun _ => gives_pure (.float start)
  · exact gives_bind fun _ => gives_pure (.float start)
  · exact numeric_gives
  · exact numeric_gives
  · exact gives_bind fun n => gives_pure (.integer start n)
  · exact gives_bind fun _ => gives_pure (.float start)
  · split
    · exact numeric_gives
    · exact gives_fail
  · exact gives_fail

section Nested

variable {value : Reader Value}

theorem arrayItems_gives (h : value.Gives Value.Distinct) :
    (arrayItems value).Gives fun items => ∀ item ∈ items, item.Distinct := by
  refine gives_bind fun fuel => gives_bind fun closed => ?_
  split
  · exact gives_pure fun _ hitem => absurd hitem List.not_mem_nil
  · have hitem : Gives (do
        blankLines fuel
        let item ← value
        blankLines fuel
        return item) Value.Distinct := by
      refine gives_bind fun _ => h.bind fun item hitem => ?_
      exact gives_bind fun _ => gives_pure hitem
    refine (hitem.separated fuel ',').bind fun items hitems => ?_
    dsimp only
    split
    · exact gives_bind fun _ => gives_bind fun _ => gives_pure hitems
    · exact gives_bind fun _ => gives_pure hitems

theorem array_gives (h : value.Gives Value.Distinct) :
    (array value).Gives Value.Distinct := by
  refine gives_bind fun start => gives_bind fun _ => Gives.commit ?_
  refine (arrayItems_gives h).bind fun items hitems => gives_bind fun _ => ?_
  exact gives_pure (.array _ hitems)

theorem pair_gives (h : value.Gives Value.Distinct) :
    (pair value).Gives fun item => item.2.2.Distinct := by
  refine gives_bind fun keys => Gives.commit ?_
  refine gives_bind fun _ => gives_bind fun _ => h.bind fun item hitem => ?_
  exact gives_bind fun _ => gives_pure hitem

/-- The pairs of an inline table go into it one after another. -/
theorem Table.Distinct.foldlM_insert {pairs : List (List Key × Key × Value)}
    (hpairs : ∀ item ∈ pairs, item.2.2.Distinct) {table table' : Table}
    (h : table.Distinct)
    (hfold : pairs.foldlM (fun table (path, key, item) =>
      Table.insert table path key (.value item)) table = some table') :
    table'.Distinct := by
  induction pairs generalizing table with
  | nil =>
      cases hfold
      exact h
  | cons item pairs ih =>
      obtain ⟨hitem, hpairs⟩ := List.forall_mem_cons.mp hpairs
      obtain ⟨next, hnext, hfold⟩ := Option.bind_eq_some_iff.mp hfold
      exact ih hpairs (h.insert (.value hitem) hnext) hfold

theorem inlineTable_gives (h : value.Gives Value.Distinct) :
    (inlineTable value).Gives Value.Distinct := by
  refine gives_bind fun start => gives_bind fun _ => Gives.commit ?_
  refine gives_bind fun inside => gives_bind fun fuel => ?_
  refine ((pair_gives h).separated fuel ',').bind fun pairs hpairs => ?_
  refine gives_bind fun _ => ?_
  dsimp only
  split
  next => exact gives_failAt inside
  next origin entries hfold =>
      have htable := Table.Distinct.foldlM_insert hpairs (.empty _) hfold
      exact gives_bind fun _ => gives_pure (Node.Distinct.toValue htable)

end Nested

theorem byOpening_gives {array table : Reader Value}
    (harray : array.Gives Value.Distinct)
    (htable : table.Gives Value.Distinct) :
    (byOpening array table).Gives Value.Distinct := by
  refine gives_bind fun next? => ?_
  split
  · exact harray
  · exact htable
  · exact scalar_gives

theorem value_gives (depth : ℕ) : (value depth).Gives Value.Distinct := by
  induction depth with
  | zero => exact byOpening_gives gives_fail.commit gives_fail.commit
  | succ depth ih => exact byOpening_gives (array_gives ih) (inlineTable_gives ih)

/-! ## Statements -/

section Statements

variable {draft : Draft}

theorem header_gives (h : draft.Distinct) :
    (header draft).Gives Draft.Distinct := by
  refine gives_bind fun start => gives_bind fun (listed, path, key) => ?_
  dsimp only
  split
  next draft' hopen =>
      refine gives_pure ?_
      split_ifs at hopen
      · exact h.openListed? hopen
      · exact h.openTable? hopen
  next => exact gives_failAt start

theorem assignment_gives (h : draft.Distinct) :
    (assignment draft).Gives Draft.Distinct := by
  refine gives_bind fun start => gives_bind fun keys => ?_
  refine gives_bind fun _ => gives_bind fun _ => ?_
  refine (value_gives _).bind fun item hitem => gives_bind fun _ => ?_
  split
  next draft' hinsert => exact gives_pure (h.insert? (.value hitem) hinsert)
  next => exact gives_failAt start

theorem statements_gives (fuel : ℕ) (h : draft.Distinct) :
    (statements fuel draft).Gives Draft.Distinct := by
  induction fuel generalizing draft with
  | zero => exact gives_bind fun _ => gives_pure h
  | succ fuel ih =>
      refine gives_bind fun _ => gives_bind fun next? => ?_
      split
      · exact gives_pure h
      · exact gives_bind fun _ => gives_bind fun _ => ih h
      · exact (header_gives h).bind fun _ => ih
      · exact gives_bind fun _ => ih h
      · exact gives_bind fun _ => ih h
      · exact (assignment_gives h).bind fun _ => ih

end Statements

/-- The entries of a text that can be read are those of a table in which, and
under which, every table has each key once. -/
theorem readEntries_distinct {cs : List Char} {entries : List (Key × Value)}
    (h : readEntries cs = .ok entries) : (Value.table none entries).Distinct := by
  simp only [readEntries] at h
  split at h
  next => cases h
  next draft c hread =>
      split at h
      next origin nodes hfinish =>
          cases h
          have htable := (statements_gives _ .start _ hread).finish? hfinish
          exact (htable.withOrigin ⟨none, false, false⟩).toValue
      next => cases h

/-! ## Blank texts

Not every blank character may stand between statements, so that a blank text need
not be one that can be read.  If it is, it has no entries.
-/

/-- Only blank characters are left of the text. -/
def Cursor.IsBlank (c : Cursor) : Prop :=
  ∀ d ∈ c.rest, Text.isBlank d = true

section Blank

variable {c : Cursor}

theorem Cursor.IsBlank.suffix {c' : Cursor} (h : c.IsBlank)
    (hrest : c'.rest <:+ c.rest) : c'.IsBlank :=
  fun d hd => h d (hrest.mem hd)

theorem Cursor.IsBlank.ne_head? (h : c.IsBlank) {d : Char}
    (hd : Text.isBlank d = false) : some d ≠ c.rest.head? := by
  intro hhead
  have hblank := h d (List.mem_of_head? hhead.symm)
  exact Bool.false_ne_true (hd.symm.trans hblank)

theorem givesAt_blanks (h : c.IsBlank) :
    GivesAt blanks c fun _ c' => c'.IsBlank := by
  intro _ c' hr
  cases hr
  exact h.suffix (List.drop_suffix _ _)

theorem givesAt_newline (h : c.IsBlank) :
    GivesAt newline c fun _ c' => c'.IsBlank := by
  have hdrop (n : ℕ) : GivesAt (drop n) c fun _ c' => c'.IsBlank := by
    intro _ c' hr
    cases hr
    exact h.suffix (List.drop_suffix _ _)
  refine (givesAt_get c).bind ?_
  rintro _ _ ⟨rfl, rfl⟩
  split
  · exact hdrop 1
  · exact hdrop 2
  · exact givesAt_fail

theorem isBlank_of_inBareKey {d : Char} (h : inBareKey d = true) :
    Text.isBlank d = false := by
  simp only [inBareKey, Bool.or_eq_true, beq_iff_eq, or_assoc] at h
  rcases h with h | rfl | rfl
  · delta Char.isAlphanum Char.isAlpha Char.isUpper Char.isLower Char.isDigit at h
    simp only [Bool.or_eq_true, Bool.and_eq_true, decide_eq_true_eq, ge_iff_le,
      UInt32.le_iff_toNat_le] at h
    change ((65 ≤ d.toNat ∧ d.toNat ≤ 90) ∨ 97 ≤ d.toNat ∧ d.toNat ≤ 122) ∨
      48 ≤ d.toNat ∧ d.toNat ≤ 57 at h
    simp only [Text.isBlank, Bool.or_eq_false_iff, Bool.and_eq_false_imp,
      decide_eq_true_eq, decide_eq_false_iff_not, beq_eq_false_iff_ne]
    omega
  · decide
  · decide

/-- No key starts with a character that is blank. -/
theorem givesAt_simpleKey (h : c.IsBlank) :
    GivesAt simpleKey c fun _ _ => False := by
  have hone : GivesAt (one inBareKey) c fun _ _ => False := by
    refine (givesAt_peek? c).bind ?_
    rintro next? _ ⟨hnext, rfl⟩
    split
    · split
      next hkey => exact absurd hnext (h.ne_head? (isBlank_of_inBareKey hkey))
      next => exact givesAt_fail
    · exact givesAt_fail
  refine (givesAt_position c).bind ?_
  rintro _ _ rfl
  refine (givesAt_peek? _).bind ?_
  rintro next? _ ⟨hnext, rfl⟩
  split
  · exact absurd hnext (h.ne_head? (by decide))
  · exact absurd hnext (h.ne_head? (by decide))
  · exact hone.bind fun _ _ => False.elim

theorem givesAt_keyPart (h : c.IsBlank) : GivesAt keyPart c fun _ _ => False :=
  (givesAt_blanks h).bind fun _ _ hrest =>
    (givesAt_simpleKey hrest).bind fun _ _ => False.elim

theorem givesAt_dottedKey (h : c.IsBlank) :
    GivesAt dottedKey c fun _ _ => False := by
  refine (givesAt_position c).bind ?_
  rintro _ _ rfl
  exact (givesAt_keyPart h).bind fun _ _ => False.elim

theorem givesAt_assignment (h : c.IsBlank) (draft : Draft) :
    GivesAt (assignment draft) c fun _ _ => False := by
  refine (givesAt_position c).bind ?_
  rintro _ _ rfl
  exact (givesAt_dottedKey h).bind fun _ _ => False.elim

theorem givesAt_statements (h : c.IsBlank) (fuel : ℕ) (draft : Draft) :
    GivesAt (statements fuel draft) c fun draft' _ => draft' = draft := by
  induction fuel generalizing c with
  | zero => exact (givesAt_blanks h).bind fun _ _ _ => givesAt_pure rfl
  | succ fuel ih =>
      refine (givesAt_blanks h).bind fun _ c₁ h => (givesAt_peek? c₁).bind ?_
      rintro next? _ ⟨hnext, rfl⟩
      split
      · exact givesAt_pure rfl
      · exact absurd hnext (h.ne_head? (by decide))
      · exact absurd hnext (h.ne_head? (by decide))
      · exact (givesAt_newline h).bind fun _ _ => ih
      · exact (givesAt_newline h).bind fun _ _ => ih
      · exact (givesAt_assignment h draft).bind fun _ _ => False.elim

end Blank

theorem readEntries_of_blank {cs : List Char} {entries : List (Key × Value)}
    (hblank : ∀ d ∈ cs, Text.isBlank d = true)
    (h : readEntries cs = .ok entries) : entries = [] := by
  simp only [readEntries] at h
  split at h
  next => cases h
  next draft c hread =>
      have hdraft : draft = Draft.start := by
        refine givesAt_statements (fun d hd => ?_) _ _ hread
        split at hd
        · exact hblank d (List.mem_cons_of_mem _ hd)
        · exact hblank d hd
      subst hdraft
      cases h
      rfl

end Newsstand.Toml
