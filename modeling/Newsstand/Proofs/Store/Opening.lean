import Newsstand.Proofs.Store.Naming
import Newsstand.Proofs.Store.Reopening

/-!
# Where stores are opened

A durable store is asked for under a path and a table.  Where nothing has been
stored yet, it is opened on the file of the name as which the path is read, if the
journal of this file can have a name too, and the table one that the query
language leaves free.  What it lists from then on is what has been accepted for
this table of this file, whatever else is opened in the same run.
-/

namespace Newsstand

/-! ## Names of tables -/

namespace Database

/-- The query language leaves the name to tables. -/
structure Leaves (name : String) : Prop where
  not_reserved : foldCase name ∉ reservedWords
  not_internal : ¬"sqlite_".toList <+: (foldCase name).toList

/-- An empty database takes the tables whose names are left to them. -/
theorem exists_require_nil_iff {name : String} :
    (∃ d, Database.require [] name = .ok d) ↔ Leaves name := by
  unfold require
  constructor
  · rintro ⟨d, h⟩
    split_ifs at h with hreserved hinternal <;>
      exact ⟨fun hmem => hreserved (List.contains_iff_mem.mpr hmem),
        fun hfront => hinternal (List.isPrefixOf_iff_prefix.mpr hfront)⟩
  · intro h
    have hreserved := mt List.contains_iff_mem.mp h.not_reserved
    have hinternal := mt List.isPrefixOf_iff_prefix.mp h.not_internal
    rw [if_neg hreserved, if_neg hinternal]
    exact ⟨[⟨name, []⟩], rfl⟩

end Database

namespace Storage

open Newsstand.Text

variable {s t : Storage} {store other : Store}
  {here there parts : List String} {path name table : String}

/-! ## Files that can be made -/

/-- Who goes along the parts of a path from the first place comes to the second.
All that is passed on the way is a directory. -/
inductive Along (s : Storage) :
    List String → List String → List String → Prop where
  | done (here : List String) : Along s here [] here
  | stay {part : String} {here parts there : List String}
      (hpart : part = "" ∨ part = ".") (h : Along s here parts there) :
      Along s here (part :: parts) there
  | up {here parts there : List String}
      (h : Along s (Location.enter here "..") parts there) :
      Along s here (".." :: parts) there
  | down {part : String} {here parts there : List String}
      (hpart : part ∉ ["", ".", ".."])
      (hlength : byteLength part.toList ≤ nameLimit)
      (hpassed : parts = [] ∨ s.isDirectory (here ++ [part]))
      (h : Along s (here ++ [part]) parts there) :
      Along s here (part :: parts) there

/-- A file can be made under the path, at the place that the parts describe. -/
structure CanCreate (s : Storage) (path : String) (parts : List String) :
    Prop where
  along : s.Along (pathStart path) (pathParts path) parts
  not_isDirectory : s.isDirectory parts = false
  new : s.directory.files.lookup parts = none

theorem enter_of_down {part : String} (hpart : part ∉ ["", ".", ".."])
    (here : List String) : Location.enter here part = here ++ [part] := by
  simp only [List.mem_cons, List.not_mem_nil, or_false, not_or] at hpart
  obtain ⟨hempty, hdot, hup⟩ := hpart
  simp [Location.enter, hempty, hdot, hup]

/-- Along a path one comes to where the path leads. -/
theorem Along.eq_foldl_enter (h : s.Along here parts there) :
    there = parts.foldl Location.enter here := by
  induction h with
  | done here => rfl
  | @stay part here parts there hpart h ih =>
      have hstay : Location.enter here part = here := by
        rcases hpart with rfl | rfl <;> rfl
      rw [List.foldl_cons, hstay, ih]
  | up h ih => exact ih
  | down hpart hlength hpassed h ih =>
      rw [List.foldl_cons, enter_of_down hpart, ih]

theorem isDirectory_dropLast (h : s.isDirectory here) :
    s.isDirectory here.dropLast := by
  have hfront := List.dropLast_prefix here
  rw [isDirectory, Bool.or_eq_true] at h ⊢
  refine h.imp (fun hup => ?_) fun hdirectory => ?_
  · exact List.all_eq_true.mpr fun part hpart =>
      List.all_eq_true.mp hup part (hfront.mem hpart)
  · simp only [Directory.isDirectory, Bool.or_eq_true, List.isEmpty_iff,
      beq_iff_eq, List.any_eq_true, Bool.and_eq_true, decide_eq_true_eq,
      List.isPrefixOf_iff_prefix] at hdirectory ⊢
    rcases hdirectory with (rfl | rfl) | ⟨file, hfile, hbelow, hlt⟩
    · exact Or.inl (Or.inl rfl)
    · exact Or.inl (Or.inl rfl)
    · refine Or.inr ⟨file, hfile, hfront.trans hbelow, ?_⟩
      exact Nat.lt_of_le_of_lt hfront.length_le hlt

theorem isDirectory_enter_up (h : s.isDirectory here) :
    s.isDirectory (Location.enter here "..") := by
  rw [Location.enter, if_neg (by decide)]
  split
  · exact h
  split
  · exact isDirectory_dropLast h
  next hany =>
      simp only [beq_self_eq_true, Bool.true_and, List.any_eq_true, not_exists,
        not_and, bne_iff_ne, ne_eq, not_not] at hany
      rw [isDirectory, Bool.or_eq_true]
      refine Or.inl (List.all_eq_true.mpr fun part hpart => ?_)
      rcases List.mem_append.mp hpart with hpart | hpart
      · exact beq_iff_eq.mpr (hany part hpart)
      · exact beq_iff_eq.mpr (List.mem_singleton.mp hpart)

/-- Where one comes to from a directory lies in a directory. -/
theorem Along.isDirectory_dropLast (h : s.Along here parts there)
    (hhere : s.isDirectory here) : s.isDirectory there.dropLast := by
  induction h with
  | done here => exact Storage.isDirectory_dropLast hhere
  | stay hpart h ih => exact ih hhere
  | up h ih => exact ih (isDirectory_enter_up hhere)
  | @down part here parts there hpart hlength hpassed h ih =>
      rcases hpassed with rfl | hdirectory
      · cases h
        rwa [List.dropLast_concat]
      · exact ih hdirectory

/-- Who walks to a file goes along its path. -/
theorem along_of_walk {d : Directory} (h : d.walk here parts = .ok there)
    (hhere : ".." ∉ here) : (start d).Along here parts there := by
  induction parts generalizing here with
  | nil =>
      obtain rfl := Except.ok.inj h
      exact .done here
  | cons part parts ih =>
      obtain ⟨hwalk, hnext⟩ := Directory.walk_enter h hhere
      have hrest := ih hwalk hnext
      by_cases hstay : part = "" ∨ part = "."
      · have heq : Location.enter here part = here := by
          rcases hstay with rfl | rfl <;> rfl
        exact .stay hstay (heq ▸ hrest)
      by_cases hup : part = ".."
      · subst hup
        exact .up hrest
      have hpart : part ∉ ["", ".", ".."] := by
        simp only [List.mem_cons, List.not_mem_nil, or_false]
        tauto
      rw [Directory.walk, if_neg (by simpa using hstay),
        if_neg (by simpa using hup)] at h
      dsimp only at h
      split_ifs at h with hlength hpassed
      refine .down hpart (Nat.le_of_not_lt hlength) ?_
        (enter_of_down hpart here ▸ hrest)
      rw [Bool.or_eq_true, List.isEmpty_iff] at hpassed
      exact hpassed.imp_right fun hdirectory =>
        Bool.or_eq_true_iff.mpr (Or.inr hdirectory)

/-- A file can be made where a walk along the path ends at nothing. -/
theorem canCreate_of_walk {d : Directory}
    (h : d.walk (pathStart path) (pathParts path) = .ok parts)
    (hdirectory : (start d).isDirectory parts = false)
    (hnew : d.files.lookup parts = none) : (start d).CanCreate path parts := by
  have hstart : ".." ∉ pathStart path := by
    unfold pathStart
    split <;> decide
  exact ⟨along_of_walk h hstart, hdirectory, hnew⟩

/-! ## Files of databases -/

theorem CanCreate.eq_resolve (h : s.CanCreate name parts) :
    parts = Location.resolve name :=
  h.along.eq_foldl_enter

theorem isDirectory_pathStart (s : Storage) (path : String) :
    s.isDirectory (pathStart path) := by
  unfold pathStart
  split
  · exact Bool.or_eq_true_iff.mpr (Or.inr rfl)
  · rfl

theorem CanCreate.ne_empty (h : s.CanCreate name parts) : name ≠ "" := by
  rintro rfl
  have hparts := h.eq_resolve
  have hdirectory := h.not_isDirectory
  rw [hparts, show Location.resolve "" = [] from rfl] at hdirectory
  cases hdirectory

/-- The file has a name of which that of the journal beside it can be made. -/
def HasJournal (parts : List String) : Prop :=
  (parts.getLastD "").utf8ByteSize ≤ databaseNameLimit

instance : DecidablePred HasJournal := fun _ =>
  inferInstanceAs (Decidable (_ ≤ _))

/-- A file that can be made is good for a database if there can be a journal. -/
theorem CanCreate.checkFile_eq_ok_iff (h : s.CanCreate name parts) :
    s.checkFile parts = .ok () ↔ HasJournal parts := by
  have hparent : s.isDirectory parts.dropLast :=
    h.along.isDirectory_dropLast (s.isDirectory_pathStart name)
  simp only [checkFile, h.not_isDirectory, hparent, h.new, Bool.false_or,
    Bool.not_true]
  simp [HasJournal]

/-! ## The first store of a directory -/

section First

variable {directory : Directory}

/-- On a path that is read as the name of a new file, a store is opened if the
file can have a journal and the table a name. -/
theorem exists_openDurable_start_iff (htable : isTableName table)
    (hreads : Location.Reads path name) (hmemory : name ≠ ":memory:")
    (hcreate : (start directory).CanCreate name parts) :
    (∃ store t, (start directory).openDurable path table = .ok (store, t)) ↔
      HasJournal parts ∧ Database.Leaves table := by
  have hpath := hreads.ofPath_eq hcreate.ne_empty hmemory
  rw [← hcreate.eq_resolve] at hpath
  rw [← hcreate.checkFile_eq_ok_iff, ← Database.exists_require_nil_iff]
  constructor
  · rintro ⟨store, t, hopen⟩
    obtain ⟨-, location, seat, d, hlocation, hseat, hrequire, -, -⟩ :=
      openDurable_eq_ok_iff.mp hopen
    obtain rfl := Except.ok.inj (hpath.symm.trans hlocation)
    exact ⟨(seatFor_file_eq_ok_iff.mp hseat).1, d, hrequire⟩
  · rintro ⟨hcheck, d, hrequire⟩
    exact ⟨_, _, openDurable_eq_ok_iff.mpr ⟨htable, _, _, d, hpath,
      seatFor_file_eq_ok_iff.mpr ⟨hcheck, rfl⟩, hrequire, rfl, rfl⟩⟩

/-- The first store brings one database file, that of its path. -/
theorem isDatabaseFile_of_openDurable_start
    (hpath : Location.ofPath path = .ok (.file parts))
    (hopen : (start directory).openDurable path table = .ok (store, t))
    (file : String) :
    t.isDatabaseFile file ↔ Location.resolve file = parts := by
  obtain ⟨d, -, -, rfl⟩ := openDurable_eq_ok_of_file hpath hopen
  have hput := (start directory).isSome_lookup_putDatabase (.file parts)
    (.file (Location.resolve file)) d
  have hnone : ((start directory).databases.lookup
      (.file (Location.resolve file))).isSome = false := rfl
  rw [hnone, Bool.or_false] at hput
  rw [isDatabaseFile]
  refine (Bool.eq_iff_iff.mp hput).trans ?_
  simp

/-- On a path with a question mark no store is opened. -/
theorem openDurable_ne_ok_of_question (h : '?' ∈ path.toList) :
    s.openDurable path table ≠ .ok (store, t) := by
  intro hopen
  obtain ⟨fault, hfault⟩ := Location.exists_fault_of_question h
  obtain ⟨-, location, -, -, hlocation, -⟩ := openDurable_eq_ok_iff.mp hopen
  rw [hfault] at hlocation
  cases hlocation

end First

/-! ## Connections stay -/

/-- The store has been opened on the table at the seat; it may be closed. -/
def IsOn (s : Storage) (seat : Seat) (table : String) (store : Store) : Prop :=
  ∃ number c, store = .durable number ∧ s.connections[number]? = some c ∧
    c.seat = seat ∧ c.table = table

section Connections

variable {seat : Seat}

theorem IsOn.leadsTo_iff (h : s.IsOn seat table store)
    (hopen : s.isOpen store) (place : Seat) (spelling : String) :
    s.leadsTo place spelling store ↔
      place = seat ∧ sameName table spelling := by
  obtain ⟨number, c, rfl, hc, rfl, rfl⟩ := h
  obtain ⟨d, hd⟩ := Option.isSome_iff_exists.mp hopen
  obtain ⟨hfound, -⟩ := Option.filter_eq_some_iff.mp hd
  obtain rfl : c = d := Option.some.inj (hc.symm.trans hfound)
  simp only [leadsTo, hd, Option.any_some, Bool.and_eq_true, beq_iff_eq]
  exact and_congr_left' eq_comm

theorem IsOn.of_getElem? (h : s.IsOn seat table store)
    (hkept : ∀ (number : ℕ) (c : Connection),
      s.connections[number]? = some c → ∃ d : Connection,
        t.connections[number]? = some d ∧ d.seat = c.seat ∧
          d.table = c.table) : t.IsOn seat table store := by
  obtain ⟨number, c, rfl, hc, rfl, rfl⟩ := h
  obtain ⟨d, hd, hseat, htable⟩ := hkept number c hc
  exact ⟨number, d, rfl, hd, hseat, htable⟩

theorem IsOn.openStore (h : s.IsOn seat table store) (config : StoreConfig) :
    (s.openStore config).2.1.IsOn seat table store := by
  refine h.of_getElem? fun number c hc => ⟨c, ?_, rfl, rfl⟩
  rcases s.openStore_cases config with heq | heq | ⟨opened, d, -, heq⟩
  · rw [heq, hc]
  · rw [heq]
    exact hc
  · rw [heq, ← hc]
    exact List.getElem?_append_left (List.getElem?_eq_some_iff.mp hc).1

theorem IsOn.close (h : s.IsOn seat table store) (closed : Store) :
    (s.close closed).IsOn seat table store := by
  refine h.of_getElem? fun number c hc => ?_
  cases closed with
  | volatile other => exact ⟨c, hc, rfl, rfl⟩
  | durable other =>
      simp only [Storage.close, List.getElem?_modify, hc, Option.map_eq_map,
        Option.map_some]
      refine ⟨_, rfl, ?_⟩
      split <;> exact ⟨rfl, rfl⟩

theorem Changed.connections {change : Change}
    {result : Except StoreFault Unit} (h : s.Changed store change result t) :
    t.connections = s.connections := by
  cases h <;> rfl

theorem IsOn.step {r : Run} (h : r.storage.IsOn seat table store)
    (step : Step) : (r.step step).2.1.storage.IsOn seat table store := by
  have hstepped := r.stepped (fun _ _ => true) step
  generalize (r.step step).2.1.storage = t at hstepped ⊢
  generalize r.accepted (fun _ _ => true) step = changes at hstepped
  cases hstepped with
  | same => exact h
  | opened config => exact h.openStore config
  | closed closed => exact h.close closed
  | changed hchanged =>
      exact h.of_getElem? fun number c hc =>
        ⟨c, by rw [hchanged.connections, hc], rfl, rfl⟩

theorem IsOn.steps {r : Run} (h : r.storage.IsOn seat table store)
    (steps : List Step) : (r.steps steps).storage.IsOn seat table store := by
  induction steps generalizing r with
  | nil => exact h
  | cons step steps ih => exact ih (h.step step)

end Connections

/-! ## The stores that a run opens -/

/-- The store that a step opens, with the configuration that asked for it. -/
def Run.openedBy (r : Run) : Step → Option (StoreConfig × Store)
  | .openAs _ config =>
      match (r.storage.openStore config).1 with
      | .ok store => some (config, store)
      | .error _ => none
  | .act _ _ => none

/-- The stores that one step after another opens. -/
def Run.opened (r : Run) : List Step → List (StoreConfig × Store)
  | [] => []
  | step :: steps =>
      (r.openedBy step).toList ++ (r.step step).2.1.opened steps

theorem isOn_openStore {config : StoreConfig} {log : Log}
    (hbackend : config.backend = .durable)
    (hpath : Location.ofPath config.database = .ok (.file parts))
    (h : s.openStore config = (.ok store, t, log)) :
    t.IsOn (.file parts) config.table store := by
  simp only [openStore, hbackend] at h
  split at h
  · cases h
  next hopen =>
      cases h
      obtain ⟨d, -, rfl, rfl⟩ := openDurable_eq_ok_of_file hpath hopen
      exact ⟨_, _, rfl, List.getElem?_concat_length, rfl, rfl⟩

theorem Run.isOn_of_openedBy {r : Run} {step : Step} {config : StoreConfig}
    (hbackend : config.backend = .durable)
    (hpath : Location.ofPath config.database = .ok (.file parts))
    (h : r.openedBy step = some (config, store)) :
    (r.step step).2.1.storage.IsOn (.file parts) config.table store := by
  cases step with
  | act name action => cases h
  | openAs name asked =>
      simp only [Run.openedBy] at h
      simp only [Run.step]
      split
      next fault t log hopen =>
          rw [hopen] at h
          cases h
      next opened t log hopen =>
          rw [hopen] at h
          cases h
          exact isOn_openStore hbackend hpath hopen

/-- A store that was opened on a file in a run is on this file at its end. -/
theorem Run.isOn_of_mem_opened {r : Run} {steps : List Step}
    {config : StoreConfig} (hbackend : config.backend = .durable)
    (hpath : Location.ofPath config.database = .ok (.file parts))
    (h : (config, store) ∈ r.opened steps) :
    (r.steps steps).storage.IsOn (.file parts) config.table store := by
  induction steps generalizing r with
  | nil => cases h
  | cons step steps ih =>
      rcases List.mem_append.mp h with hstep | hrest
      · have hon := Run.isOn_of_openedBy hbackend hpath
          (Option.mem_toList.mp hstep)
        exact hon.steps steps
      · exact ih hrest

/-! ## What a store lists -/

/-- At the end of a run the store is on the table of the file and nowhere else,
and lists what the run has brought into it. -/
structure LivesIn (directory : Directory) (steps : List Step)
    (parts : List String) (table : String) (store : Store) : Prop where
  leadsTo_iff : ∀ seat spelling,
    ((Run.start directory).steps steps).storage.leadsTo seat spelling store ↔
      seat = .file parts ∧ sameName table spelling
  list_eq : ∀ user,
    ((Run.start directory).steps steps).storage.list store user =
      .ok (Roll.ofRows (Change.replay ((Run.start directory).history
        (·.leadsTo (.file parts) table) steps)) user)

theorem livesIn_of_isOn {directory : Directory} {steps : List Step}
    (h : ((Run.start directory).steps steps).storage.IsOn (.file parts) table
      store)
    (hopen : ((Run.start directory).steps steps).storage.isOpen store) :
    LivesIn directory steps parts table store := by
  have hleads := h.leadsTo_iff hopen
  refine ⟨hleads, fun user => ?_⟩
  have hself := (hleads (.file parts) table).mpr ⟨rfl, sameName_iff.mpr rfl⟩
  rw [list_of_leadsTo (Run.rooted_steps_start directory steps) hself,
    (Run.start directory).rows_steps (rooted_start directory)]
  rfl

section Others

variable {r : Run} {seat : Seat}

theorem leadsTo_of_connections_eq (h : t.connections = s.connections)
    (store : Store) :
    t.leadsTo seat table store = s.leadsTo seat table store := by
  cases store with
  | volatile number => rfl
  | durable number => simp only [leadsTo, connection?, h]

theorem leadsTo_close_of_ne (h : other ≠ store) :
    (s.close other).leadsTo seat table store = s.leadsTo seat table store := by
  cases store with
  | volatile number => rfl
  | durable number =>
      cases other with
      | volatile closed => rfl
      | durable closed =>
          have hne : closed ≠ number := fun heq => h (congrArg _ heq)
          simp only [leadsTo, connection?, Storage.close,
            List.getElem?_modify_ne _ _ hne]

/-- What is done with one store leaves another one where it is. -/
theorem Run.leadsTo_act (h : other ≠ store) (action : Action) :
    (r.act other action).2.1.storage.leadsTo seat table store =
      r.storage.leadsTo seat table store := by
  cases action with
  | share name => rfl
  | list user =>
      simp only [Run.act]
      split <;> rfl
  | add user url =>
      exact leadsTo_of_connections_eq
        (r.storage.changed_add other user url).connections store
  | remove user url =>
      exact leadsTo_of_connections_eq
        (r.storage.changed_remove other user url).connections store
  | askOpen => rfl
  | close => exact leadsTo_close_of_ne h

/-- What is done with a store that is not on a table matters to none that is. -/
theorem Run.list_step_of_not_leadsTo (hrooted : r.storage.Rooted)
    (hstore : r.storage.leadsTo seat table store)
    (hother : ¬r.storage.leadsTo seat table other) {known : String}
    (hknown : r.stores.lookup known = some other) (action : Action)
    (user : String) :
    (r.step (.act known action)).2.1.storage.list store user =
      r.storage.list store user := by
  -- It may be closed by the step, but it is not the store that lists.
  have hne : other ≠ store := by
    rintro rfl
    exact hother hstore
  have haccepted :
      r.accepted (·.leadsTo seat table) (.act known action) = [] := by
    rw [Run.accepted, hknown]
    cases action.change? with
    | none => rfl
    | some change => exact if_neg fun h => hother h.1
  have hrows := r.rows_step hrooted seat table (.act known action)
  rw [haccepted, List.foldl_nil] at hrows
  have hleads : (r.step (.act known action)).2.1.storage.leadsTo seat table
      store := by
    simp only [Run.step, hknown]
    rw [Run.leadsTo_act hne]
    exact hstore
  rw [list_of_leadsTo (hrooted.step _) hleads, hrows,
    list_of_leadsTo hrooted hstore]

end Others

/-- Plain paths are those that are read as themselves, and on a path with a
question mark no store is opened.  On a path that is read as the name of a new
file, for a table with an admitted name, the first store of a directory is opened
exactly if the file can have a journal and the query language leaves the name to
the table; this file becomes a database then, and no other one does.  In every run
the stores that are opened on this path and this table list what has been accepted
for the table of the file, and nothing that is done with a store on another file
matters to them. -/
theorem opens_files_as_read (directory : Directory) (path table : String)
    (htable : isTableName table) :
    let opening := (start directory).openDurable path table
    (Location.Reads path path ↔ Location.Plain path) ∧
      ('?' ∈ path.toList → ∀ store t, opening ≠ .ok (store, t)) ∧
      ∀ name parts, Location.Reads path name → name ≠ ":memory:" →
        (start directory).CanCreate name parts →
        ((∃ store t, opening = .ok (store, t)) ↔
            HasJournal parts ∧ Database.Leaves table) ∧
          (∀ store t, opening = .ok (store, t) → ∀ file,
            t.isDatabaseFile file ↔ Location.resolve file = parts) ∧
          ∀ steps (config : StoreConfig) store, config.backend = .durable →
            config.database = path → config.table = table →
            (config, store) ∈ (Run.start directory).opened steps →
            let r := (Run.start directory).steps steps
            r.storage.isOpen store →
            LivesIn directory steps parts table store ∧
              ∀ known other place spelling,
                r.stores.lookup known = some other →
                LivesIn directory steps place spelling other → place ≠ parts →
                ∀ action user,
                  (r.step (.act known action)).2.1.storage.list store user =
                    r.storage.list store user := by
  intro opening
  refine ⟨Location.reads_self_iff,
    fun hquestion store t => openDurable_ne_ok_of_question hquestion, ?_⟩
  intro name parts hreads hmemory hcreate
  have hpath := hreads.ofPath_eq hcreate.ne_empty hmemory
  rw [← hcreate.eq_resolve] at hpath
  refine ⟨exists_openDurable_start_iff htable hreads hmemory hcreate,
    fun store t => isDatabaseFile_of_openDurable_start hpath, ?_⟩
  rintro steps config store hbackend rfl rfl hopened r hopen
  have hlives : LivesIn directory steps parts config.table store :=
    livesIn_of_isOn (Run.isOn_of_mem_opened hbackend hpath hopened) hopen
  refine ⟨hlives, fun known other place spelling hknown hother hplace => ?_⟩
  have hstore := (hlives.leadsTo_iff (.file parts) config.table).mpr
    ⟨rfl, sameName_iff.mpr rfl⟩
  refine Run.list_step_of_not_leadsTo (Run.rooted_steps_start directory steps)
    hstore (fun hleads => hplace ?_) hknown
  exact (Seat.file.inj ((hother.leadsTo_iff _ _).mp hleads).1).symm

/-- A path with an encoded letter is read as a shorter name.  The store on it
lists what has been added to the file of this name, and not what has been added
to another file before and after that. -/
theorem opens_files_as_read_of_encoded :
    let escaped := "a%62.db"
    let on (path : String) : StoreConfig :=
      { backend := .durable, database := path, table := "t" }
    let steps : List Step :=
      [.openAs "s" (on "ab.db"), .openAs "u" (on escaped),
        .openAs "v" (on "c.db"), .act "s" (.add "ann" "x"),
        .act "v" (.add "ann" "y")]
    let r := (Run.start ⟨[]⟩).steps steps
    isTableName "t" ∧ Location.Reads escaped "ab.db" ∧
      (start ⟨[]⟩).CanCreate "ab.db" ["ab.db"] ∧
      (∃ store t, (start ⟨[]⟩).openDurable escaped "t" = .ok (store, t)) ∧
      LivesIn ⟨[]⟩ steps ["ab.db"] "t" (.durable 1) ∧
      r.storage.list (.durable 1) "ann" = .ok ["x"] ∧
      (r.step (.act "v" (.add "ann" "z"))).2.1.storage.list (.durable 1) "ann" =
        .ok ["x"] := by
  intro escaped on steps r
  have htable : isTableName "t" := by decide
  have hread : Location.Reads escaped "ab.db" :=
    ⟨by decide +kernel, by decide +kernel, by decide, by decide⟩
  have hplain : Location.Reads "c.db" "c.db" :=
    ⟨by decide +kernel, by decide +kernel, by decide, by decide⟩
  have hab : (start ⟨[]⟩).CanCreate "ab.db" ["ab.db"] :=
    canCreate_of_walk (by decide +kernel) (by decide) (by decide)
  have hc : (start ⟨[]⟩).CanCreate "c.db" ["c.db"] :=
    canCreate_of_walk (by decide +kernel) (by decide) (by decide)
  obtain ⟨-, -, hopens⟩ := opens_files_as_read ⟨[]⟩ escaped "t" htable
  obtain ⟨hfirst, -, hruns⟩ := hopens "ab.db" ["ab.db"] hread (by decide) hab
  obtain ⟨hlives, hothers⟩ := hruns steps (on escaped) (.durable 1) rfl rfl rfl
    (by decide +kernel) (by decide +kernel)
  obtain ⟨-, -, hopensOther⟩ := opens_files_as_read ⟨[]⟩ "c.db" "t" htable
  obtain ⟨-, -, hrunsOther⟩ :=
    hopensOther "c.db" ["c.db"] hplain (by decide) hc
  obtain ⟨hother, -⟩ := hrunsOther steps (on "c.db") (.durable 2) rfl rfl rfl
    (by decide +kernel) (by decide +kernel)
  have hlist : r.storage.list (.durable 1) "ann" = .ok ["x"] :=
    (hlives.list_eq "ann").trans (by decide +kernel)
  refine ⟨htable, hread, hab, hfirst.mpr ⟨by decide +kernel, ?_⟩, hlives, hlist,
    ?_⟩
  · exact ⟨by decide +kernel, by decide +kernel⟩
  · rw [← hlist]
    exact hothers "v" (.durable 2) ["c.db"] "t" (by decide +kernel) hother
      (by decide) (.add "ann" "z") "ann"

end Storage

end Newsstand
