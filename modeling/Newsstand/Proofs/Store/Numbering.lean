import Mathlib.Data.List.Nodup
import Mathlib.Data.List.Sort
import Newsstand.Proofs.Store.Roll

/-!
# Rows by number

A database knows no order among its rows.  It numbers them, and a query sorts
its result by number.  The order of a roll survives this whichever way numbers
are given out, as long as a new row gets one above those of all rows that are
there.  A number may well come back once the rows from it on are deleted.
-/

namespace Newsstand

/-- A row of a database under its number. -/
structure NumberedRow where
  number : ℤ
  entry : Subscription
  deriving DecidableEq

/-- The rows of a table, in no particular order. -/
abbrev NumberedRows := List NumberedRow

namespace NumberedRows

/-- The order in which a query gives rows. -/
def inOrder (a b : NumberedRow) : Bool :=
  a.number ≤ b.number

/-- The URLs of a user, sorted by the numbers of their rows. -/
def select (rows : NumberedRows) : Roll := fun user =>
  ((rows.filter (·.entry.user = user)).mergeSort inOrder).map (·.entry.url)

/-- Puts a row in unless it is there; `assign` gives its number. -/
def insert (assign : NumberedRows → ℤ) (rows : NumberedRows)
    (entry : Subscription) : NumberedRows :=
  if ∃ row ∈ rows, row.entry = entry then rows
  else ⟨assign rows, entry⟩ :: rows

/-- Takes a row out. -/
def delete (rows : NumberedRows) (entry : Subscription) : NumberedRows :=
  rows.filter (·.entry ≠ entry)

/-- A new row gets a number above those of all rows that are there. -/
def Ascending (assign : NumberedRows → ℤ) : Prop :=
  ∀ rows : NumberedRows, ∀ row ∈ rows, row.number < assign rows

/-- The number behind the largest one that is in use; the first one is one. -/
def nextNumber (rows : NumberedRows) : ℤ :=
  rows.foldr (fun row n => max (row.number + 1) n) 1

/-- No two rows have one number. -/
def Distinct (rows : NumberedRows) : Prop :=
  (rows.map (·.number)).Nodup

variable {rows : NumberedRows} {assign : NumberedRows → ℤ}

theorem Distinct.delete (h : rows.Distinct) (entry : Subscription) :
    (rows.delete entry).Distinct :=
  h.sublist (List.filter_sublist.map _)

theorem Distinct.insert (h : rows.Distinct) (hassign : Ascending assign)
    (entry : Subscription) : (rows.insert assign entry).Distinct := by
  unfold NumberedRows.insert
  split
  · exact h
  · refine List.nodup_cons.mpr ⟨fun hmem => ?_, h⟩
    obtain ⟨row, hrow, hnumber⟩ := List.mem_map.mp hmem
    exact (hassign rows row hrow).ne hnumber

/-! ## Sorting -/

theorem inOrder_trans (a b c : NumberedRow) (hab : inOrder a b)
    (hbc : inOrder b c) : inOrder a c := by
  simp only [inOrder, decide_eq_true_eq] at *
  omega

theorem inOrder_total (a b : NumberedRow) :
    (inOrder a b || inOrder b a) = true := by
  simp only [inOrder, Bool.or_eq_true, decide_eq_true_eq]
  omega

/-- A row whose number is above all others comes last. -/
theorem mergeSort_cons_of_lt {row : NumberedRow}
    (h : ∀ other ∈ rows, other.number < row.number) :
    (row :: rows).mergeSort inOrder = rows.mergeSort inOrder ++ [row] := by
  obtain ⟨front, back, hcons, hrows, -⟩ :=
    List.mergeSort_cons inOrder_trans inOrder_total row rows
  have hback : back = [] := by
    apply List.eq_nil_iff_forall_not_mem.mpr
    intro other hother
    have hsorted :=
      List.pairwise_mergeSort inOrder_trans inOrder_total (row :: rows)
    rw [hcons] at hsorted
    have hle := (List.pairwise_cons.mp (List.pairwise_append.mp hsorted).2.1).1
      other hother
    have hmem : other ∈ rows.mergeSort inOrder := by
      rw [hrows]
      exact List.mem_append_right _ hother
    have hlt := h other (List.mem_mergeSort.mp hmem)
    simp only [inOrder, decide_eq_true_eq] at hle
    omega
  rw [hcons, hrows, hback, List.append_nil]

/-- Rows may be left out before or after they are sorted. -/
theorem Distinct.mergeSort_filter (h : rows.Distinct)
    (p : NumberedRow → Bool) :
    (rows.filter p).mergeSort inOrder = (rows.mergeSort inOrder).filter p := by
  have hsorted := List.pairwise_mergeSort inOrder_trans inOrder_total rows
  have hperm : ((rows.filter p).mergeSort inOrder).Perm
      ((rows.mergeSort inOrder).filter p) :=
    (List.mergeSort_perm _ _).trans
      ((List.mergeSort_perm rows inOrder).symm.filter p)
  apply List.Perm.eq_of_pairwise _
    (List.pairwise_mergeSort inOrder_trans inOrder_total _)
    (hsorted.sublist List.filter_sublist) hperm
  intro a b ha hb hab hba
  have hmema : a ∈ rows :=
    (List.mem_filter.mp (List.mem_mergeSort.mp ha)).1
  have hmemb : b ∈ rows :=
    List.mem_mergeSort.mp (List.mem_filter.mp hb).1
  simp only [inOrder, decide_eq_true_eq] at hab hba
  exact List.inj_on_of_nodup_map h hmema hmemb (le_antisymm hab hba)

/-! ## Queries -/

theorem mem_select {user url : String} :
    url ∈ rows.select user ↔ ∃ row ∈ rows, row.entry = ⟨user, url⟩ := by
  simp only [select, List.mem_map, List.mem_mergeSort, List.mem_filter,
    decide_eq_true_eq]
  constructor
  · rintro ⟨row, ⟨hrow, rfl⟩, rfl⟩
    exact ⟨row, hrow, rfl⟩
  · rintro ⟨row, hrow, hentry⟩
    exact ⟨row, ⟨hrow, by rw [hentry]⟩, by rw [hentry]⟩

theorem select_insert (hassign : Ascending assign) (user url : String) :
    (rows.insert assign ⟨user, url⟩).select =
      Roll.add rows.select user url := by
  by_cases hheld : ∃ row ∈ rows, row.entry = ⟨user, url⟩
  · rw [Roll.add_of_mem (mem_select.mpr hheld), insert, if_pos hheld]
  · rw [Roll.add_of_not_mem (mt mem_select.mp hheld), insert, if_neg hheld]
    funext name
    rw [Function.update_apply]
    split
    next hname =>
        subst hname
        have hlast : ∀ other ∈ rows.filter (·.entry.user = name),
            other.number < assign rows :=
          fun other hother => hassign rows other (List.mem_filter.mp hother).1
        simp only [select]
        rw [List.filter_cons_of_pos (by simp), mergeSort_cons_of_lt hlast,
          List.map_append, List.map_singleton]
    next hname =>
        simp only [select]
        rw [List.filter_cons_of_neg (by simpa using Ne.symm hname)]

theorem Distinct.select_delete (h : rows.Distinct) (user url : String) :
    (rows.delete ⟨user, url⟩).select = Roll.remove rows.select user url := by
  funext name
  rw [Roll.remove, Function.update_apply]
  simp only [select, NumberedRows.delete]
  split
  next hname =>
      subst hname
      have hdistinct : Distinct (rows.filter (·.entry.user = name)) :=
        h.sublist (List.filter_sublist.map _)
      rw [List.filter_map, ← hdistinct.mergeSort_filter, List.filter_filter,
        List.filter_filter]
      congr 2
      apply List.filter_congr
      intro row _
      obtain ⟨number, other, link⟩ := row
      grind
  next hname =>
      rw [List.filter_filter]
      congr 2
      apply List.filter_congr
      intro row _
      obtain ⟨number, other, link⟩ := row
      grind

end NumberedRows

end Newsstand
