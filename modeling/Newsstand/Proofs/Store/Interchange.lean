import Newsstand.Proofs.Store.Numbering
import Newsstand.Proofs.Support.DistinctKeys
import Newsstand.Store.Run

/-!
# Stores are interchangeable

Nobody who uses a store can tell whether it is kept in memory or in a table of
a database.  All that a store which stays open can show is its roll, and a call
changes the roll of either kind in the same way.  The answers to any calls are
therefore those of one desk with one table, whose rows are numbered in whatever
way a database may number them, and it makes no difference under which of its
names a store is called.
-/

namespace Newsstand.Storage

variable {s : Storage}

/-! ## The roll of a store -/

/-- The store can serve requests, and the roll is what it holds. -/
def Holds (s : Storage) : Store → Roll → Prop
  | .volatile number, roll =>
      ∃ l, s.volatiles[number]? = some l ∧ l.urls = roll
  | .durable number, roll =>
      ∃ c t, s.connection? number = some c ∧
        (s.database c.seat).find? c.table = some t ∧ t.urls = roll

theorem Holds.list {store : Store} {roll : Roll} (h : s.Holds store roll)
    (user : String) : s.list store user = .ok (roll user) := by
  cases store with
  | volatile number =>
      obtain ⟨l, hl, rfl⟩ := h
      simp only [Storage.list, listings, hl, Option.getD_some]
  | durable number =>
      obtain ⟨c, t, hc, ht, rfl⟩ := h
      simp only [Storage.list, hc, tableOf, ht, Option.getD_some]

theorem database_putDatabase (s : Storage) (seat : Seat) (d : Database) :
    (s.putDatabase seat d).database seat = d := by
  simp [putDatabase, database]

/-- Who changes the rows of a table finds the changed table under its name. -/
theorem find?_modify (d : Database) (name : String) {f : Table → Table}
    (hf : ∀ t, (f t).name = t.name) :
    (d.modify name f).find? name = (d.find? name).map f := by
  induction d with
  | nil => rfl
  | cons t d ih =>
      simp only [Database.modify, Database.find?, List.map_cons,
        List.find?_cons] at ih ⊢
      by_cases ht : sameName t.name name
      · simp [ht, hf]
      · simpa [ht] using ih

/-- What is done to the rows of an open table is done to its roll. -/
theorem holds_modifyTable {number : ℕ} {c : Connection} {t : Table}
    (hc : s.connection? number = some c)
    (ht : (s.database c.seat).find? c.table = some t) {f : Table → Table}
    (hf : ∀ t, (f t).name = t.name) :
    (s.modifyTable c f).Holds (.durable number) (f t).urls := by
  refine ⟨c, f t, hc, ?_, rfl⟩
  rw [modifyTable, database_putDatabase, find?_modify _ _ hf, ht,
    Option.map_some]

theorem holds_modifyListings {number : ℕ} {l : Listings}
    (hl : s.volatiles[number]? = some l) (f : Listings → Listings) :
    (s.modifyListings number f).Holds (.volatile number) (f l).urls := by
  refine ⟨f l, ?_, rfl⟩
  simp only [modifyListings, List.getElem?_modify_eq, hl,
    Option.map_eq_map, Option.map_some]

theorem insert_name (t : Table) (row : Subscription) :
    (t.insert row).name = t.name := by
  unfold Table.insert
  split <;> rfl

theorem Holds.add {store : Store} {roll : Roll} (h : s.Holds store roll)
    {user url : String} (hvalid : requireUserAndUrl user url = .ok ()) :
    (s.add store user url).1 = .ok () ∧
      (s.add store user url).2.1.Holds store (roll.add user url) := by
  cases store with
  | volatile number =>
      obtain ⟨l, hl, rfl⟩ := h
      simp only [Storage.add, hvalid, true_and]
      rw [← Listings.urls_add]
      exact holds_modifyListings hl (·.add user url)
  | durable number =>
      obtain ⟨c, t, hc, ht, rfl⟩ := h
      simp only [Storage.add, hvalid, hc, true_and]
      rw [← Table.urls_insert t ⟨user, url⟩]
      exact holds_modifyTable hc ht fun t => insert_name t _

theorem Holds.remove {store : Store} {roll : Roll} (h : s.Holds store roll)
    {user url : String} (hvalid : requireUserAndUrl user url = .ok ()) :
    (s.remove store user url).1 = .ok () ∧
      (s.remove store user url).2.1.Holds store (roll.remove user url) := by
  cases store with
  | volatile number =>
      obtain ⟨l, hl, rfl⟩ := h
      simp only [Storage.remove, hvalid, true_and]
      rw [← Listings.urls_remove]
      exact holds_modifyListings hl (·.remove user url)
  | durable number =>
      obtain ⟨c, t, hc, ht, rfl⟩ := h
      simp only [Storage.remove, hvalid, hc, true_and]
      rw [← Table.urls_delete t ⟨user, url⟩]
      exact holds_modifyTable hc ht fun _ => rfl

theorem add_of_invalid (store : Store) {user url : String} {fault : StoreFault}
    (h : requireUserAndUrl user url = .error fault) :
    s.add store user url = (.error fault, s, []) := by
  simp only [Storage.add, h]

theorem remove_of_invalid (store : Store) {user url : String}
    {fault : StoreFault} (h : requireUserAndUrl user url = .error fault) :
    s.remove store user url = (.error fault, s, []) := by
  simp only [Storage.remove, h]

/-! ## Fresh stores -/

theorem holds_openVolatile (s : Storage) :
    s.openVolatile.2.Holds s.openVolatile.1 Roll.empty := by
  refine ⟨[], ?_, rfl⟩
  simp [openVolatile]

/-- A store is opened on a table that the name, the path and the files allow, and
what it adds to the storage is this table and its connection. -/
theorem openDurable_eq_ok_iff {path table : String} {store : Store}
    {t : Storage} :
    s.openDurable path table = .ok (store, t) ↔
      isTableName table ∧ ∃ location seat d,
        Location.ofPath path = .ok location ∧ s.seatFor location = .ok seat ∧
          (s.database seat).require table = .ok d ∧
          store = .durable s.connections.length ∧
          t = { s.putDatabase seat d with
            connections := s.connections ++ [⟨seat, table, false⟩] } := by
  simp only [openDurable, bind, Except.bind, pure, Except.pure]
  cases isTableName table with
  | false => simp
  | true =>
      cases Location.ofPath path with
      | error fault => simp [Except.mapError]
      | ok location =>
          cases hseat : s.seatFor location with
          | error fault => simp [Except.mapError, hseat]
          | ok seat =>
              cases hrequire : (s.database seat).require table with
              | error fault => simp [Except.mapError, hseat, hrequire]
              | ok d =>
                  simp [Except.mapError, hseat, hrequire, eq_comm]
                  rfl

theorem openDurable_eq_ok {path table : String} {store : Store} {t : Storage}
    (h : s.openDurable path table = .ok (store, t)) :
    ∃ seat d, (s.database seat).require table = .ok d ∧
      store = .durable s.connections.length ∧
      t = { s.putDatabase seat d with
        connections := s.connections ++ [⟨seat, table, false⟩] } := by
  obtain ⟨-, -, seat, d, -, -, hopened⟩ := openDurable_eq_ok_iff.mp h
  exact ⟨seat, d, hopened⟩

/-- What is asked of a store that stays open. -/
inductive Call where
  /-- Has the store under one more name. -/
  | share (name : String)
  | list (user : String)
  | add (user url : String)
  | remove (user url : String)
  deriving DecidableEq, Repr

/-- The call as something that is done with a store. -/
def Call.action : Call → Action
  | .share name => .share name
  | .list user => .list user
  | .add user url => .add user url
  | .remove user url => .remove user url

/-- The answers to calls one after another, each with the name under which the
store is called. -/
def Run.answers (r : Run) : List (String × Call) → List Reply
  | [] => []
  | (name, call) :: calls =>
      let (reply, next, _) := r.step (.act name call.action)
      reply :: next.answers calls

/-- A desk with one table, and the names under which people come to it. -/
structure Desk where
  names : List String
  rows : NumberedRows

namespace Desk

/-- What a desk says to a call.  New rows are numbered by `assign`. -/
def serve (assign : NumberedRows → ℤ) (d : Desk) : Call → Reply × Desk
  | .share name => (.done, { d with names := name :: d.names })
  | .list user => (.urls (d.rows.select user), d)
  | .add user url =>
      match requireUserAndUrl user url with
      | .error fault => (.failed fault, d)
      | .ok () => (.done, { d with rows := d.rows.insert assign ⟨user, url⟩ })
  | .remove user url =>
      match requireUserAndUrl user url with
      | .error fault => (.failed fault, d)
      | .ok () => (.done, { d with rows := d.rows.delete ⟨user, url⟩ })

/-- The answers of a desk to calls one after another. -/
def answers (assign : NumberedRows → ℤ) (d : Desk) :
    List (String × Call) → List Reply
  | [] => []
  | (name, call) :: calls =>
      if name ∈ d.names then
        (d.serve assign call).1 :: (d.serve assign call).2.answers assign calls
      else .unknown name :: d.answers assign calls

end Desk

/-- The names of the desk are those of one store, which holds what the table
of the desk gives. -/
structure Run.Serves (r : Run) (store : Store) (d : Desk) : Prop where
  named : ∀ name,
    r.stores.lookup name = if name ∈ d.names then some store else none
  holds : r.storage.Holds store d.rows.select
  distinct : d.rows.Distinct

theorem lookup_name (r : Run) (name other : String) (store : Store) :
    (r.name name store).stores.lookup other =
      if other = name then some store else r.stores.lookup other := by
  simp only [Run.name, List.lookup_cons]
  by_cases hother : other = name
  · simp [hother]
  · simp only [beq_false_of_ne hother, if_neg hother]
    exact lookup_filter_ne r.stores hother

variable {r : Run} {store : Store} {d : Desk} {assign : NumberedRows → ℤ}

/-- Whoever calls under a name of the store gets the answer of the desk. -/
theorem Run.Serves.act (h : r.Serves store d)
    (hassign : NumberedRows.Ascending assign) (call : Call) :
    (r.act store call.action).1 = (d.serve assign call).1 ∧
      (r.act store call.action).2.1.Serves store
        (d.serve assign call).2 := by
  cases call with
  | share name =>
      refine ⟨rfl, fun other => ?_, h.holds, h.distinct⟩
      rw [Call.action, Run.act, lookup_name, h.named other]
      simp only [Desk.serve, List.mem_cons]
      split <;> simp_all
  | list user =>
      have hlist := h.holds.list user
      simp only [Call.action, Run.act, hlist, Desk.serve, true_and]
      exact h
  | add user url =>
      cases hcheck : requireUserAndUrl user url with
      | error fault =>
          simp only [Call.action, Run.act, Desk.serve, hcheck,
            add_of_invalid store hcheck, Reply.ofChange, true_and]
          exact h
      | ok =>
          obtain ⟨hreply, hholds⟩ := h.holds.add hcheck
          simp only [Call.action, Run.act, Desk.serve, hcheck, hreply,
            Reply.ofChange, true_and]
          refine ⟨h.named, ?_, h.distinct.insert hassign _⟩
          rw [NumberedRows.select_insert hassign]
          exact hholds
  | remove user url =>
      cases hcheck : requireUserAndUrl user url with
      | error fault =>
          simp only [Call.action, Run.act, Desk.serve, hcheck,
            remove_of_invalid store hcheck, Reply.ofChange, true_and]
          exact h
      | ok =>
          obtain ⟨hreply, hholds⟩ := h.holds.remove hcheck
          simp only [Call.action, Run.act, Desk.serve, hcheck, hreply,
            Reply.ofChange, true_and]
          refine ⟨h.named, ?_, h.distinct.delete _⟩
          rw [h.distinct.select_delete]
          exact hholds

theorem Run.Serves.answers (h : r.Serves store d)
    (hassign : NumberedRows.Ascending assign) (calls : List (String × Call)) :
    r.answers calls = d.answers assign calls := by
  induction calls generalizing r d with
  | nil => rfl
  | cons step calls ih =>
      obtain ⟨name, call⟩ := step
      have hnamed := h.named name
      by_cases hname : name ∈ d.names
      · rw [if_pos hname] at hnamed
        obtain ⟨hreply, hnext⟩ := h.act hassign call
        simp only [Run.answers, Run.step, hnamed, Desk.answers, if_pos hname,
          hreply, ih hnext]
      · rw [if_neg hname] at hnamed
        simp only [Run.answers, Run.step, hnamed, Desk.answers, if_neg hname,
          ih h]

/-! ## The two kinds of stores -/

/-- Before any store is opened. -/
def Run.start (directory : Directory) : Run :=
  ⟨Storage.start directory, []⟩

end Newsstand.Storage
