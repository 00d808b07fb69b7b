import Mathlib.Logic.Function.Basic
import Newsstand.Store.Listing
import Newsstand.Store.Table

/-!
# What stores hold

To its users a store is nothing but the URLs of each of them, in the order in
which they were added.  Both the listings in memory and the rows of a table are
ways to keep such a roll: what they do to their own data, the roll shows as the
one addition or removal.
-/

namespace Newsstand

/-- The URLs of every user in the order in which they were added. -/
abbrev Roll := String → List String

namespace Roll

/-- Nobody subscribes to anything. -/
def empty : Roll := fun _ => []

/-- A URL is put behind the others of its user unless it is one of them. -/
def add (roll : Roll) (user url : String) : Roll :=
  Function.update roll user
    (if url ∈ roll user then roll user else roll user ++ [url])

/-- A URL is struck off the list of its user. -/
def remove (roll : Roll) (user url : String) : Roll :=
  Function.update roll user ((roll user).filter (· ≠ url))

theorem add_of_mem {roll : Roll} {user url : String} (h : url ∈ roll user) :
    roll.add user url = roll := by
  rw [add, if_pos h, Function.update_eq_self]

theorem add_of_not_mem {roll : Roll} {user url : String}
    (h : url ∉ roll user) :
    roll.add user url = Function.update roll user (roll user ++ [url]) := by
  rw [add, if_neg h]

theorem mem_add {roll : Roll} {user url other held : String} :
    held ∈ roll.add user url other ↔
      held ∈ roll other ∨ other = user ∧ held = url := by
  rw [add, Function.update_apply]
  by_cases hother : other = user
  · subst hother
    by_cases hmem : url ∈ roll other
    · rw [if_pos rfl, if_pos hmem]
      refine (or_iff_left_of_imp ?_).symm
      rintro ⟨-, rfl⟩
      exact hmem
    · simp [hmem]
  · simp [hother]

theorem mem_remove {roll : Roll} {user url other held : String} :
    held ∈ roll.remove user url other ↔
      held ∈ roll other ∧ ¬(other = user ∧ held = url) := by
  rw [remove, Function.update_apply]
  by_cases hother : other = user
  · subst hother
    simp
  · simp [hother]

end Roll

/-! ## Listings in memory -/

namespace Listings

theorem lookup_cons_eq_if (user name : String) (urls : List String)
    (l : Listings) :
    List.lookup name ((user, urls) :: l) =
      if name = user then some urls else List.lookup name l := by
  rw [List.lookup_cons]
  split <;> simp_all

theorem lookup_map_replace (l : Listings) (user name : String)
    (urls : List String) :
    List.lookup name
        (l.map fun (other, old) =>
          if other == user then (other, urls) else (other, old)) =
      if name = user then (List.lookup name l).map fun _ => urls
      else List.lookup name l := by
  induction l with
  | nil => simp
  | cons entry l ih =>
      obtain ⟨other, old⟩ := entry
      rw [List.map_cons, lookup_cons_eq_if]
      by_cases hother : other = user
      · subst hother
        by_cases hname : name = other
        · simp [hname]
        · simpa [hname, lookup_cons_eq_if] using ih
      · by_cases hname : name = other
        · simp [hname, hother]
        · simpa [hother, hname, lookup_cons_eq_if] using ih

theorem urls_put (l : Listings) (user : String) (urls : List String) :
    (l.put user urls).urls = Function.update l.urls user urls := by
  funext name
  rw [Function.update_apply]
  cases hlookup : List.lookup user l with
  | some old =>
      simp only [put, Listings.urls, hlookup, Option.isSome_some, if_true]
      rw [lookup_map_replace]
      split
      next hname => simp [hname, hlookup]
      next => rfl
  | none =>
      simp only [put, Listings.urls, hlookup, Option.isSome_none,
        Bool.false_eq_true, if_false, List.lookup_append]
      split
      next hname => simp [hname, hlookup]
      next hname => simp [List.lookup_cons, beq_false_of_ne hname]

theorem urls_add (l : Listings) (user url : String) :
    (l.add user url).urls = Roll.add l.urls user url := by
  simp only [add, Roll.add, urls_put, List.contains_iff_mem]

/-- Someone unknown has nothing that could be removed. -/
theorem urls_of_lookup_none {l : Listings} {user : String}
    (h : List.lookup user l = none) : l.urls user = [] := by
  simp only [urls, h, Option.getD_none]

theorem urls_remove (l : Listings) (user url : String) :
    (l.remove user url).urls = Roll.remove l.urls user url := by
  cases hlookup : List.lookup user l with
  | some old =>
      simp only [remove, Roll.remove, hlookup, Option.isSome_some, if_true,
        urls_put]
      congr 1
      exact List.filter_congr fun name _ => by simp [bne, beq_eq_decide]
  | none =>
      simp only [remove, Roll.remove, hlookup, Option.isSome_none,
        Bool.false_eq_true, if_false]
      rw [urls_of_lookup_none hlookup, List.filter_nil,
        ← urls_of_lookup_none hlookup, Function.update_eq_self]

end Listings

/-! ## Rows of a table -/

namespace Table

theorem mem_urls (t : Table) (row : Subscription) :
    row.url ∈ t.urls row.user ↔ t.holds row := by
  simp only [urls, holds, List.contains_iff_mem, List.mem_map, List.mem_filter,
    beq_iff_eq]
  constructor
  · rintro ⟨held, ⟨hheld, huser⟩, hurl⟩
    have hrow : held = row := by
      cases held
      cases row
      simp_all
    exact hrow ▸ hheld
  · intro hheld
    exact ⟨row, ⟨hheld, rfl⟩, rfl⟩

theorem urls_insert (t : Table) (row : Subscription) :
    (t.insert row).urls = Roll.add t.urls row.user row.url := by
  by_cases hheld : t.holds row
  · rw [Roll.add_of_mem ((mem_urls t row).mpr hheld), insert, if_pos hheld]
  · rw [Roll.add_of_not_mem (mt (mem_urls t row).mp hheld), insert,
      if_neg hheld]
    funext name
    rw [Function.update_apply]
    by_cases hname : name = row.user
    · simp [urls, hname]
    · simp [urls, hname, Ne.symm hname]

theorem urls_delete (t : Table) (row : Subscription) :
    (t.delete row).urls = Roll.remove t.urls row.user row.url := by
  funext name
  rw [Roll.remove, Function.update_apply]
  simp only [urls, delete]
  split
  next hname =>
      subst hname
      rw [List.filter_map, List.filter_filter, List.filter_filter]
      congr 1
      apply List.filter_congr
      intro held _
      cases held
      cases row
      grind
  next hname =>
      rw [List.filter_filter]
      congr 1
      apply List.filter_congr
      intro held _
      cases held
      cases row
      grind

end Table

end Newsstand
