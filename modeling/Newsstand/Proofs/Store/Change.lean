import Mathlib.Data.List.Induction
import Mathlib.Data.List.Nodup
import Mathlib.Data.Nat.Basic
import Mathlib.Order.Basic
import Newsstand.Proofs.Store.Roll

/-!
# Changes of subscriptions

Rows change by one subscription at a time.  What a history of changes makes of a
table that was empty can be told from the history alone: a row is there if its
last change has added it, the rows stand in the order of the additions that
brought them in, and the rows of a user depend on the changes of this user only.
-/

namespace Newsstand

/-- A subscription is added or removed. -/
inductive Change where
  | add (row : Subscription)
  | remove (row : Subscription)
  deriving DecidableEq, Repr

/-- The rows of every user, as the URLs in them. -/
def Roll.ofRows (rows : List Subscription) : Roll := fun user =>
  (rows.filter (·.user == user)).map (·.url)

namespace Change

/-- The subscription that a change is about. -/
def row : Change → Subscription
  | .add row => row
  | .remove row => row

@[simp]
theorem row_add (row : Subscription) : (add row).row = row := rfl

@[simp]
theorem row_remove (row : Subscription) : (remove row).row = row := rfl

/-- The rows after a change.  A row that is there already stays where it is. -/
def apply (rows : List Subscription) : Change → List Subscription
  | .add row => if row ∈ rows then rows else rows ++ [row]
  | .remove row => rows.filter (· ≠ row)

/-- The rows of a table that was empty after changes one after another. -/
def replay (changes : List Change) : List Subscription :=
  changes.foldl apply []

/-- The change at a place brings a row in: it adds the row, which is not removed
any more after that, and it is the first one to do so since the row was removed
before. -/
structure BringsIn (changes : List Change) (row : Subscription) (i : ℕ) :
    Prop where
  added : changes[i]? = some (.add row)
  kept : ∀ j, changes[j]? = some (.remove row) → j < i
  first : ∀ j < i, changes[j]? = some (.add row) →
    ∃ k, j < k ∧ k < i ∧ changes[k]? = some (.remove row)

variable {rows : List Subscription} {changes : List Change} {change : Change}
  {row : Subscription} {i : ℕ}

theorem replay_concat (changes : List Change) (change : Change) :
    replay (changes ++ [change]) = apply (replay changes) change := by
  rw [replay, List.foldl_concat, replay]

/-- Behind some changes a change stands at the place of their number. -/
theorem getElem?_concat (changes : List Change) (change : Change) (i : ℕ) :
    (changes ++ [change])[i]? =
      if i = changes.length then some change else changes[i]? := by
  grind

theorem lt_length (h : changes[i]? = some change) : i < changes.length :=
  (List.getElem?_eq_some_iff.mp h).1

/-! ## Which rows there are -/

theorem mem_apply (rows : List Subscription) (change : Change)
    (row : Subscription) :
    row ∈ apply rows change ↔
      if change.row = row then change = .add row else row ∈ rows := by
  cases change with
  | add other =>
      simp only [apply, row_add, Change.add.injEq]
      by_cases hrow : other = row
      · subst hrow
        split <;> simp_all
      · split <;> simp [Ne.symm hrow]
  | remove other =>
      simp only [apply, row_remove, List.mem_filter, decide_eq_true_eq,
        reduceCtorEq]
      by_cases hrow : other = row
      · simp [hrow]
      · simp [hrow, Ne.symm hrow]

/-- A row is there if its last change has added it. -/
theorem mem_replay (changes : List Change) (row : Subscription) :
    row ∈ replay changes ↔
      (changes.filter (·.row = row)).getLast? = some (.add row) := by
  induction changes using List.reverseRecOn with
  | nil => simp [replay]
  | append_singleton changes change ih =>
      rw [replay_concat, mem_apply, List.filter_append]
      by_cases hrow : change.row = row
      · rw [if_pos hrow, List.filter_cons_of_pos (by simpa using hrow),
          List.filter_nil, List.getLast?_concat, Option.some.injEq]
      · rw [if_neg hrow, List.filter_cons_of_neg (by simpa using hrow),
          List.filter_nil, List.append_nil]
        exact ih

theorem nodup_apply (h : rows.Nodup) (change : Change) :
    (apply rows change).Nodup := by
  cases change with
  | add row =>
      rw [apply]
      split
      · exact h
      next hrow => exact List.concat_eq_append ▸ h.concat hrow
  | remove row => exact h.filter _

theorem nodup_replay (changes : List Change) : (replay changes).Nodup := by
  induction changes using List.reverseRecOn with
  | nil => exact List.nodup_nil
  | append_singleton changes change ih =>
      rw [replay_concat]
      exact nodup_apply ih change

/-! ## Their order -/

/-- What brings a row in does so too when something else happens later. -/
theorem BringsIn.concat (h : BringsIn changes row i)
    (hchange : change ≠ .remove row) :
    BringsIn (changes ++ [change]) row i := by
  have hlt := lt_length h.added
  have hbefore : ∀ j ≤ i, (changes ++ [change])[j]? = changes[j]? := by
    intro j hj
    rw [getElem?_concat, if_neg (by omega)]
  refine ⟨(hbefore i le_rfl).trans h.added, fun j hj => ?_, fun j hj hadd => ?_⟩
  · rw [getElem?_concat] at hj
    split at hj
    · exact absurd (Option.some.inj hj) hchange
    · exact h.kept j hj
  · rw [hbefore j hj.le] at hadd
    obtain ⟨k, hjk, hki, hremove⟩ := h.first j hj hadd
    exact ⟨k, hjk, hki, (hbefore k hki.le).trans hremove⟩

/-- A row that is not there has been removed since it was added. -/
theorem exists_remove_of_not_mem_replay (h : row ∉ replay changes)
    (hadd : changes[i]? = some (.add row)) :
    ∃ k, i < k ∧ changes[k]? = some (.remove row) := by
  induction changes using List.reverseRecOn with
  | nil => simp at hadd
  | append_singleton changes change ih =>
      have hadded : change ≠ .add row := by
        rintro rfl
        exact h (by simp [replay_concat, mem_apply])
      rw [getElem?_concat] at hadd
      split at hadd
      · exact absurd (Option.some.inj hadd) hadded
      have hlt := lt_length hadd
      by_cases hremoved : change = .remove row
      · refine ⟨changes.length, hlt, ?_⟩
        rw [getElem?_concat, if_pos rfl, hremoved]
      · have hother : change.row ≠ row := by
          rintro rfl
          cases change <;> contradiction
        rw [replay_concat, mem_apply, if_neg hother] at h
        obtain ⟨k, hik, hk⟩ := ih h hadd
        refine ⟨k, hik, ?_⟩
        rw [getElem?_concat, if_neg (lt_length hk).ne, hk]

/-- An addition brings its row in where the row was not there. -/
theorem bringsIn_length (h : row ∉ replay changes) :
    BringsIn (changes ++ [.add row]) row changes.length := by
  refine ⟨by rw [getElem?_concat, if_pos rfl], fun j hj => ?_, fun j hj hadd => ?_⟩
  · rw [getElem?_concat] at hj
    split at hj
    · cases hj
    · exact lt_length hj
  · rw [getElem?_concat, if_neg hj.ne] at hadd
    obtain ⟨k, hjk, hk⟩ := exists_remove_of_not_mem_replay h hadd
    have hlt := lt_length hk
    refine ⟨k, hjk, hlt, ?_⟩
    rw [getElem?_concat, if_neg hlt.ne, hk]

/-- A row is brought in by one change. -/
theorem BringsIn.unique {j : ℕ} (hi : BringsIn changes row i)
    (hj : BringsIn changes row j) : i = j := by
  rcases lt_trichotomy i j with hlt | heq | hlt
  · obtain ⟨k, hik, -, hk⟩ := hj.first i hlt hi.added
    have := hi.kept k hk
    omega
  · exact heq
  · obtain ⟨k, hjk, -, hk⟩ := hi.first j hlt hj.added
    have := hj.kept k hk
    omega

/-- The rows stand in the order of the changes that brought them in. -/
theorem exists_places (changes : List Change) :
    ∃ place : Subscription → ℕ,
      (∀ row ∈ replay changes, BringsIn changes row (place row)) ∧
        (replay changes).Pairwise fun a b => place a < place b := by
  induction changes using List.reverseRecOn with
  | nil => exact ⟨fun _ => 0, by simp [replay], by simp [replay]⟩
  | append_singleton changes change ih =>
      obtain ⟨place, hplace, hsorted⟩ := ih
      rw [replay_concat]
      cases change with
      | add row =>
          by_cases hrow : row ∈ replay changes
          · rw [apply, if_pos hrow]
            exact ⟨place, fun a ha => (hplace a ha).concat (by simp), hsorted⟩
          rw [apply, if_neg hrow]
          -- Old rows keep their places, all of which are before the new one.
          have hold : ∀ a ∈ replay changes,
              Function.update place row changes.length a = place a :=
            fun a ha => Function.update_of_ne (ne_of_mem_of_not_mem ha hrow) _ _
          refine ⟨Function.update place row changes.length, ?_, ?_⟩
          · intro a ha
            rcases List.mem_append.mp ha with ha | ha
            · rw [hold a ha]
              exact (hplace a ha).concat (by simp)
            · obtain rfl := List.mem_singleton.mp ha
              rw [Function.update_self]
              exact bringsIn_length hrow
          · refine List.pairwise_append.mpr ⟨?_, List.pairwise_singleton _ _, ?_⟩
            · refine hsorted.imp_of_mem fun ha hb hlt => ?_
              rwa [hold _ ha, hold _ hb]
            · intro a ha b hb
              obtain rfl := List.mem_singleton.mp hb
              rw [hold a ha, Function.update_self]
              exact lt_length (hplace a ha).added
      | remove row =>
          refine ⟨place, fun a ha => ?_, hsorted.filter _⟩
          obtain ⟨ha, hne⟩ := List.mem_filter.mp ha
          refine (hplace a ha).concat fun hremove => ?_
          exact of_decide_eq_true hne (Change.remove.inj hremove).symm

/-! ## The rows of a user -/

theorem apply_filter_user {user : String} (huser : change.row.user = user)
    (rows : List Subscription) :
    (apply rows change).filter (·.user = user) =
      apply (rows.filter (·.user = user)) change := by
  cases change with
  | add row =>
      have hmem : row ∈ rows.filter (·.user = user) ↔ row ∈ rows := by
        rw [List.mem_filter]
        exact and_iff_left (by simpa using huser)
      rw [apply, apply]
      by_cases hrow : row ∈ rows
      · rw [if_pos hrow, if_pos (hmem.mpr hrow)]
      · rw [if_neg hrow, if_neg (mt hmem.mp hrow), List.filter_append,
          List.filter_cons_of_pos (by simpa using huser), List.filter_nil]
  | remove row =>
      rw [apply, apply, List.filter_filter, List.filter_filter]
      exact List.filter_congr fun a _ => Bool.and_comm _ _

theorem apply_filter_other_user {user : String} (huser : change.row.user ≠ user)
    (rows : List Subscription) :
    (apply rows change).filter (·.user = user) =
      rows.filter (·.user = user) := by
  cases change with
  | add row =>
      rw [apply]
      split
      · rfl
      · rw [List.filter_append, List.filter_cons_of_neg (by simpa using huser),
          List.filter_nil, List.append_nil]
  | remove row =>
      rw [apply, List.filter_filter]
      refine List.filter_congr fun a _ => ?_
      rw [← Bool.decide_and, decide_eq_decide]
      refine and_iff_left_of_imp fun ha hrow => huser ?_
      rw [← ha, hrow, row_remove]

/-- The rows of a user come from the changes of this user. -/
theorem replay_filter_user (changes : List Change) (user : String) :
    (replay changes).filter (·.user = user) =
      replay (changes.filter (·.row.user = user)) := by
  induction changes using List.reverseRecOn with
  | nil => rfl
  | append_singleton changes change ih =>
      rw [replay_concat, List.filter_append]
      by_cases huser : change.row.user = user
      · rw [apply_filter_user huser, ih,
          List.filter_cons_of_pos (by simpa using huser), List.filter_nil,
          replay_concat]
      · rw [apply_filter_other_user huser, ih,
          List.filter_cons_of_neg (by simpa using huser), List.filter_nil,
          List.append_nil]

/-! ## Rolls and tables -/

/-- What is done to a table. -/
def onTable : Change → Table → Table
  | .add row => (·.insert row)
  | .remove row => (·.delete row)

/-- What is done to the listings in memory. -/
def onListings : Change → Listings → Listings
  | .add row => (·.add row.user row.url)
  | .remove row => (·.remove row.user row.url)

/-- What is done to a roll. -/
def onRoll : Change → Roll → Roll
  | .add row => (·.add row.user row.url)
  | .remove row => (·.remove row.user row.url)

theorem rows_onTable (change : Change) (t : Table) :
    (change.onTable t).rows = apply t.rows change := by
  cases change with
  | add row =>
      simp only [onTable, Table.insert, Table.holds, List.contains_iff_mem, apply]
      split <;> rfl
  | remove row =>
      simp only [onTable, Table.delete, apply]
      exact List.filter_congr fun a _ => by simp [bne, beq_eq_decide]

theorem name_onTable (change : Change) (t : Table) :
    (change.onTable t).name = t.name := by
  cases change with
  | add row =>
      simp only [onTable, Table.insert]
      split <;> rfl
  | remove row => rfl

theorem ofRows_apply (rows : List Subscription) (change : Change) :
    Roll.ofRows (apply rows change) = change.onRoll (Roll.ofRows rows) := by
  have htable := rows_onTable change ⟨"", rows⟩
  cases change with
  | add row =>
      rw [← htable]
      exact Table.urls_insert ⟨"", rows⟩ row
  | remove row =>
      rw [← htable]
      exact Table.urls_delete ⟨"", rows⟩ row

end Change

end Newsstand
