import Newsstand.Proofs.Store.Steps

/-!
# The rows of a table

Durable stores come and go, and the rows of their tables stay.  As long as every
connection leads to a table, which all runs see to, the rows of a table of a
database are those that the history of this table makes of them: of all that a
run does, nothing counts but the changes that open stores on it accept.
-/

namespace Newsstand

theorem sameName_iff {a b : String} : sameName a b ↔ foldCase a = foldCase b :=
  beq_iff_eq

namespace Database

variable {d required : Database} {name other : String}

/-- The rows under a name; where there is no table, there are none. -/
def rows (d : Database) (name : String) : List Subscription :=
  ((d.find? name).map Table.rows).getD []

theorem find?_congr (d : Database) (h : sameName name other) :
    d.find? name = d.find? other := by
  simp only [find?, sameName, sameName_iff.mp h]

theorem find?_modify_of_not (d : Database) (h : ¬sameName name other)
    {f : Table → Table} (hf : ∀ t, (f t).name = t.name) :
    (d.modify name f).find? other = d.find? other := by
  induction d with
  | nil => rfl
  | cons t d ih =>
      simp only [modify, find?, List.map_cons, List.find?_cons] at ih ⊢
      by_cases ht : sameName t.name name
      · have hother : sameName t.name other = false := by
          rw [Bool.eq_false_iff, ne_eq, sameName_iff, sameName_iff.mp ht,
            ← sameName_iff]
          exact h
        simpa only [ht, if_true, hf, hother] using ih
      · rw [if_neg ht, ih]

/-- Changing a table changes its rows, under whichever spelling of its name. -/
theorem rows_modify (d : Database) {t : Table} (ht : d.find? name = some t)
    (change : Change) (other : String) :
    (d.modify name change.onTable).rows other =
      if sameName name other then change.apply (d.rows other)
      else d.rows other := by
  split
  next h =>
      have hfound := Storage.find?_modify d name change.name_onTable
      rw [rows, rows, ← find?_congr _ h, ← find?_congr _ h, hfound, ht]
      exact change.rows_onTable t
  next h => rw [rows, find?_modify_of_not d h change.name_onTable, rows]

/-- Where a table is asked for, it is there, or a new one without rows is put
behind the others. -/
theorem require_eq_ok (h : d.require name = .ok required) :
    (required = d ∧ (d.find? name).isSome) ∨
      (required = d ++ [⟨name, []⟩] ∧ d.find? name = none) := by
  unfold require at h
  split_ifs at h with _ _ hfound
  · exact Or.inl ⟨(Except.ok.inj h).symm, hfound⟩
  · exact Or.inr ⟨(Except.ok.inj h).symm,
      Option.isNone_iff_eq_none.mp (by simpa using hfound)⟩

theorem find?_require (h : d.require name = .ok required) :
    (required.find? name).isSome := by
  rcases require_eq_ok h with ⟨rfl, hfound⟩ | ⟨rfl, -⟩
  · exact hfound
  · simp [find?, sameName]

theorem isSome_find?_of_require (h : d.require name = .ok required)
    (hother : (d.find? other).isSome) : (required.find? other).isSome := by
  rcases require_eq_ok h with ⟨rfl, -⟩ | ⟨rfl, -⟩
  · exact hother
  · rw [find?, List.find?_append, Option.isSome_or]
    exact Bool.or_eq_true_iff.mpr (Or.inl hother)

theorem rows_require (h : d.require name = .ok required) (other : String) :
    required.rows other = d.rows other := by
  rcases require_eq_ok h with ⟨rfl, -⟩ | ⟨rfl, -⟩
  · rfl
  · rw [rows, rows, find?, find?, List.find?_append]
    cases List.find? (sameName ·.name other) d with
    | some t => rfl
    | none =>
        by_cases hname : sameName name other
        · simp [hname]
        · simp [hname]

end Database

namespace Storage

variable {s t : Storage} {store : Store} {change : Change}

/-- The rows under a name in a database. -/
def rows (s : Storage) (seat : Seat) (table : String) : List Subscription :=
  (s.database seat).rows table

/-- Whether a store is open on the table of a name in a database. -/
def leadsTo (s : Storage) (seat : Seat) (table : String) : Store → Bool
  | .volatile _ => false
  | .durable number => (s.connection? number).any fun c =>
      c.seat == seat && sameName c.table table

/-- Every connection leads to a table. -/
def Rooted (s : Storage) : Prop :=
  ∀ c ∈ s.connections, ((s.database c.seat).find? c.table).isSome

/-- A table has its rows under each spelling of its name. -/
theorem rows_congr (s : Storage) (seat : Seat) {table other : String}
    (h : sameName table other) : s.rows seat table = s.rows seat other := by
  rw [rows, rows, Database.rows, Database.rows, Database.find?_congr _ h]

theorem leadsTo_congr (s : Storage) (seat : Seat) {table other : String}
    (h : sameName table other) : s.leadsTo seat table = s.leadsTo seat other := by
  funext store
  simp only [leadsTo, sameName, sameName_iff.mp h]

theorem mem_connections {number : ℕ} {c : Connection}
    (h : s.connection? number = some c) : c ∈ s.connections :=
  List.mem_of_getElem? (Option.filter_eq_some_iff.mp h).1

theorem database_putDatabase_of_ne (s : Storage) {seat other : Seat}
    (h : other ≠ seat) (d : Database) :
    (s.putDatabase seat d).database other = s.database other := by
  simp only [putDatabase, database, List.lookup_cons, beq_false_of_ne h,
    lookup_filter_ne s.databases h]

/-! ## What steps do to rows -/

theorem rows_putDatabase (s : Storage) (seat other : Seat) (d : Database)
    (table : String) :
    (s.putDatabase seat d).rows other table =
      if other = seat then d.rows table else s.rows other table := by
  split
  next h => rw [rows, h, database_putDatabase]
  next h => rw [rows, database_putDatabase_of_ne s h, rows]

/-- Opening a store changes no rows. -/
theorem rows_openStore (s : Storage) (config : StoreConfig) (seat : Seat)
    (table : String) :
    (s.openStore config).2.1.rows seat table = s.rows seat table := by
  rcases s.openStore_cases config with heq | heq | ⟨opened, d, hrequire, heq⟩
  · rw [heq]
  · rw [heq]
    rfl
  · rw [heq]
    refine (s.rows_putDatabase opened seat d table).trans ?_
    split
    next h => rw [Database.rows_require hrequire, rows, h]
    next => rfl

theorem rows_close (s : Storage) (store : Store) (seat : Seat)
    (table : String) : (s.close store).rows seat table = s.rows seat table := by
  cases store <;> rfl

theorem Changed.rows {result : Except StoreFault Unit}
    (h : s.Changed store change result t) (hrooted : s.Rooted) (seat : Seat)
    (table : String) :
    t.rows seat table =
      (if s.leadsTo seat table store ∧ result = .ok () then [change]
        else []).foldl Change.apply (s.rows seat table) := by
  cases h with
  | refused fault => rw [if_neg (by simp), List.foldl_nil]
  | inMemory hstore =>
      rw [hstore, if_neg (by simp [leadsTo]), List.foldl_nil]
      rfl
  | @inTable number c hstore hc =>
      obtain ⟨found, hfound⟩ :=
        Option.isSome_iff_exists.mp (hrooted c (mem_connections hc))
      have hleads : s.leadsTo seat table store ↔
          c.seat = seat ∧ sameName c.table table := by
        simp only [hstore, leadsTo, hc, Option.any_some, Bool.and_eq_true,
          beq_iff_eq]
      rw [modifyTable, rows_putDatabase,
        Database.rows_modify _ hfound]
      by_cases hseat : seat = c.seat
      · subst hseat
        rw [if_pos rfl]
        by_cases htable : sameName c.table table
        · rw [if_pos htable, if_pos ⟨hleads.mpr ⟨rfl, htable⟩, rfl⟩]
          rfl
        · rw [if_neg htable, if_neg fun h => htable (hleads.mp h.1).2]
          rfl
      · rw [if_neg hseat, if_neg fun h => hseat (hleads.mp h.1).1.symm]
        rfl

theorem Run.rows_step (r : Run) (hrooted : r.storage.Rooted) (seat : Seat)
    (table : String) (step : Step) :
    (r.step step).2.1.storage.rows seat table =
      (r.accepted (·.leadsTo seat table) step).foldl Change.apply
        (r.storage.rows seat table) := by
  have hstepped := r.stepped (·.leadsTo seat table) step
  generalize (r.step step).2.1.storage = t at hstepped ⊢
  generalize r.accepted (·.leadsTo seat table) step = changes at hstepped ⊢
  cases hstepped with
  | same => rfl
  | opened config => exact r.storage.rows_openStore config seat table
  | closed store => exact r.storage.rows_close store seat table
  | changed hchanged => exact hchanged.rows hrooted seat table

/-! ## Connections lead to tables -/

theorem rooted_start (directory : Directory) : (start directory).Rooted := by
  simp [Rooted, start]

theorem Rooted.openStore (h : s.Rooted) (config : StoreConfig) :
    (s.openStore config).2.1.Rooted := by
  rcases s.openStore_cases config with heq | heq | ⟨seat, d, hrequire, heq⟩
  · rw [heq]
    exact h
  · rw [heq]
    exact h
  · rw [heq]
    intro c hc
    show (((s.putDatabase seat d).database c.seat).find? c.table).isSome
    rcases List.mem_append.mp hc with hc | hc
    · by_cases hseat : c.seat = seat
      · rw [hseat, database_putDatabase]
        exact Database.isSome_find?_of_require hrequire (hseat ▸ h c hc)
      · rw [database_putDatabase_of_ne s hseat]
        exact h c hc
    · obtain rfl := List.mem_singleton.mp hc
      rw [database_putDatabase]
      exact Database.find?_require hrequire

theorem Rooted.close (h : s.Rooted) (store : Store) :
    (s.close store).Rooted := by
  cases store with
  | volatile number => exact h
  | durable number =>
      intro c hc
      obtain ⟨i, hi⟩ := List.mem_iff_getElem?.mp hc
      simp only [Storage.close, List.getElem?_modify] at hi
      obtain ⟨old, hold, rfl⟩ := Option.map_eq_some_iff.mp hi
      have hroot := h old (List.mem_of_getElem? hold)
      split <;> exact hroot

theorem Changed.rooted {result : Except StoreFault Unit}
    (h : s.Changed store change result t) (hrooted : s.Rooted) : t.Rooted := by
  cases h with
  | refused fault => exact hrooted
  | inMemory hstore => exact hrooted
  | @inTable number c hstore hc =>
      intro other hother
      have hroot := hrooted other hother
      by_cases hseat : other.seat = c.seat
      · rw [modifyTable, hseat, database_putDatabase]
        rw [hseat] at hroot
        by_cases htable : sameName c.table other.table
        · rw [← Database.find?_congr _ htable,
            find?_modify _ _ change.name_onTable, Option.isSome_map,
            Database.find?_congr _ htable]
          exact hroot
        · rw [Database.find?_modify_of_not _ htable change.name_onTable]
          exact hroot
      · rw [modifyTable, database_putDatabase_of_ne s hseat]
        exact hroot

theorem Rooted.step {r : Run} (h : r.storage.Rooted) (step : Step) :
    (r.step step).2.1.storage.Rooted := by
  have hstepped := r.stepped (fun _ _ => true) step
  generalize (r.step step).2.1.storage = t at hstepped ⊢
  generalize r.accepted (fun _ _ => true) step = changes at hstepped
  cases hstepped with
  | same => exact h
  | opened config => exact h.openStore config
  | closed store => exact h.close store
  | changed hchanged => exact hchanged.rooted h

theorem Rooted.steps {r : Run} (h : r.storage.Rooted) (steps : List Step) :
    (r.steps steps).storage.Rooted := by
  induction steps generalizing r with
  | nil => exact h
  | cons step steps ih => exact ih (h.step step)

theorem Run.rooted_steps_start (directory : Directory) (steps : List Step) :
    ((Run.start directory).steps steps).storage.Rooted :=
  (rooted_start directory).steps steps

/-- A store that has been opened and not closed holds something. -/
theorem Rooted.holds (h : s.Rooted) (hhas : s.Has store)
    (hopen : s.isOpen store) : ∃ roll, s.Holds store roll := by
  cases store with
  | volatile number => exact ⟨_, _, List.getElem?_eq_getElem hhas, rfl⟩
  | durable number =>
      obtain ⟨c, hc⟩ := Option.isSome_iff_exists.mp hopen
      obtain ⟨t, ht⟩ := Option.isSome_iff_exists.mp (h c (mem_connections hc))
      exact ⟨_, c, t, hc, ht, rfl⟩

theorem connection?_eq_none_of_not_isOpen (h : ¬s.isOpen store) :
    ∃ number, store = .durable number ∧ s.connection? number = none := by
  cases store with
  | volatile number => exact absurd rfl h
  | durable number => exact ⟨number, rfl, by simpa [isOpen] using h⟩

/-- The rows of a table are what its history makes of them. -/
theorem Run.rows_steps (r : Run) (hrooted : r.storage.Rooted) (seat : Seat)
    (table : String) (steps : List Step) :
    (r.steps steps).storage.rows seat table =
      (r.history (·.leadsTo seat table) steps).foldl Change.apply
        (r.storage.rows seat table) := by
  induction steps generalizing r with
  | nil => rfl
  | cons step steps ih =>
      rw [Run.steps, Run.history, List.foldl_append, ← r.rows_step hrooted]
      exact ih _ (hrooted.step step)

end Storage

end Newsstand
