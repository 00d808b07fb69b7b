import Newsstand.Proofs.Store.Rows

/-!
# What is stored outlives the stores

A table in a database file is shared by all stores that are opened on it, at the
same time or one after another.  Nothing but the changes that open stores accept
touches its rows, so that a store which is opened later lists what was there.  A
store that was closed stays closed under all its names: it refuses all calls, and
these change nothing.
-/

namespace Newsstand.Storage

open Newsstand.Text

variable {s t : Storage} {r : Run}

/-! ## Stores that are opened later -/

theorem seatFor_file_eq_ok_iff {parts : List String} {seat : Seat} :
    s.seatFor (.file parts) = .ok seat ↔
      s.checkFile parts = .ok () ∧ seat = .file parts := by
  simp only [seatFor, bind, Except.bind, pure, Except.pure]
  cases s.checkFile parts <;> simp [eq_comm]

/-- Of a location in a file, an opened store is connected to that file. -/
theorem openDurable_eq_ok_of_file {path table : String} {parts : List String}
    (hpath : Location.ofPath path = .ok (.file parts)) {store : Store}
    (h : s.openDurable path table = .ok (store, t)) :
    ∃ d, (s.database (.file parts)).require table = .ok d ∧
      store = .durable s.connections.length ∧
      t = { s.putDatabase (.file parts) d with
        connections := s.connections ++ [⟨.file parts, table, false⟩] } := by
  obtain ⟨-, location, seat, d, hlocation, hseat, hopened⟩ :=
    openDurable_eq_ok_iff.mp h
  obtain rfl : .file parts = location :=
    Except.ok.inj (hpath.symm.trans hlocation)
  obtain ⟨-, rfl⟩ := seatFor_file_eq_ok_iff.mp hseat
  exact ⟨d, hopened⟩

theorem list_openStore {config : StoreConfig} {parts : List String}
    (hbackend : config.backend = .durable)
    (hpath : Location.ofPath config.database = .ok (.file parts))
    {store : Store} {log : Log}
    (h : s.openStore config = (.ok store, t, log)) (user : String) :
    t.list store user =
      .ok (Roll.ofRows (s.rows (.file parts) config.table) user) := by
  simp only [openStore, hbackend] at h
  split at h
  · cases h
  next hopen =>
      cases h
      obtain ⟨d, hrequire, rfl, rfl⟩ := openDurable_eq_ok_of_file hpath hopen
      obtain ⟨found, hfound⟩ :=
        Option.isSome_iff_exists.mp (Database.find?_require hrequire)
      have hrows : found.rows = s.rows (.file parts) config.table := by
        rw [rows, ← Database.rows_require hrequire, Database.rows, hfound]
        rfl
      have hdatabase := database_putDatabase s (.file parts) d
      simp only [Storage.list, connection?, tableOf]
      rw [List.getElem?_concat_length]
      show Except.ok ((((s.putDatabase (.file parts) d).database
        (.file parts)).find? config.table).getD ⟨config.table, []⟩ |>.urls
          user) = _
      rw [hdatabase, hfound, ← hrows]
      rfl

/-- Who opens a store on a table lists the rows that the table had before. -/
theorem Run.list_openAs {config : StoreConfig} {parts : List String}
    (hbackend : config.backend = .durable)
    (hpath : Location.ofPath config.database = .ok (.file parts))
    {name : String} {backend : Backend}
    (h : (r.step (.openAs name config)).1 = .opened backend) (user : String) :
    ((r.step (.openAs name config)).2.1.step (.act name (.list user))).1 =
      .urls
        (Roll.ofRows (r.storage.rows (.file parts) config.table) user) := by
  simp only [Run.step] at h
  split at h
  · cases h
  next store t log hopen =>
      have hlist := list_openStore hbackend hpath hopen user
      simp only [Run.step, hopen, lookup_name, if_true, Run.act]
      rw [show (({ r with storage := t } : Run).name name store).storage = t
        from rfl, hlist]

/-! ## Closed stores -/

/-- The store of a name refuses all calls and is not changed by them: a change of
a blank user or URL as not valid, and all others as those of a closed store. -/
structure Run.Refuses (r : Run) (name : String) : Prop where
  asked : r.step (.act name .askOpen) = (.isOpen false, r, [])
  list : ∀ user, r.step (.act name (.list user)) = (.failed .closed, r, [])
  blank : ∀ user url, isBlankString user ∨ isBlankString url →
    ∃ fault : StoreFault, fault.isValidation ∧
      r.step (.act name (.add user url)) = (.failed fault, r, []) ∧
      r.step (.act name (.remove user url)) = (.failed fault, r, [])
  closed : ∀ user url, ¬isBlankString user → ¬isBlankString url →
    r.step (.act name (.add user url)) = (.failed .closed, r, []) ∧
      r.step (.act name (.remove user url)) = (.failed .closed, r, [])

theorem Run.refuses_of_isShut {name : String} {number : ℕ}
    (hname : r.stores.lookup name = some (.durable number))
    (hshut : r.storage.IsShut number) : r.Refuses name := by
  have hnone := hshut.connection?_eq_none
  refine ⟨?_, fun user => ?_, fun user url => Run.step_of_blank hname,
    fun user url huser hurl => ?_⟩
  · simp only [Run.step, hname, Run.act, isOpen, hnone, Option.isSome_none]
  · simp only [Run.step, hname, Run.act, Storage.list, hnone]
  · have hcheck := requireUserAndUrl_eq_ok_iff.mpr ⟨huser, hurl⟩
    constructor
    · simp only [Run.step, hname, Run.act, Storage.add, hcheck, hnone,
        Reply.ofChange]
    · simp only [Run.step, hname, Run.act, Storage.remove, hcheck, hnone,
        Reply.ofChange]

/-- A store that was closed under one of its names refuses all calls under each
of them, whatever else has been done since. -/
theorem Run.Known.refuses_of_closed (h : r.Known) {name clone : String}
    {number : ℕ} (hname : r.stores.lookup name = some (.durable number))
    (steps : List Step)
    (hclone : ((r.step (.act name .close)).2.1.steps steps).stores.lookup
      clone = some (.durable number)) :
    ((r.step (.act name .close)).2.1.steps steps).Refuses clone := by
  have hshut : (r.step (.act name .close)).2.1.storage.IsShut number := by
    simp only [Run.step, hname, Run.act]
    exact isShut_close (h name _ hname)
  exact refuses_of_isShut hclone ((Run.before_steps _ steps).isShut hshut)

/-- The rows of a table change by the changes that open stores on it accept, and
by nothing else that a run does; in particular neither by opening stores, be it
in vain, nor by closing them.  A store that is opened later lists these rows in
their order, and one that was closed refuses all calls under all its names. -/
theorem rows_outlive_stores (directory : Directory) (past : List Step) :
    let r := (Run.start directory).steps past
    (∀ seat table steps,
      (r.steps steps).storage.rows seat table =
        (r.history (·.leadsTo seat table) steps).foldl Change.apply
          (r.storage.rows seat table)) ∧
      (∀ name config seat table,
        (r.step (.openAs name config)).2.1.storage.rows seat table =
            r.storage.rows seat table ∧
          (r.step (.act name .close)).2.1.storage.rows seat table =
            r.storage.rows seat table) ∧
      (∀ name config parts, config.backend = .durable →
        Location.ofPath config.database = .ok (.file parts) →
        (r.step (.openAs name config)).1 = .opened .durable →
        ∀ user,
          ((r.step (.openAs name config)).2.1.step (.act name (.list user))).1 =
            .urls (Roll.ofRows (r.storage.rows (.file parts) config.table)
              user)) ∧
      ∀ name number, r.stores.lookup name = some (.durable number) →
        ∀ steps,
          let closed := (r.step (.act name .close)).2.1.steps steps
          ∀ clone, closed.stores.lookup clone = some (.durable number) →
            closed.Refuses clone := by
  intro r
  have hrooted : r.storage.Rooted := Run.rooted_steps_start directory past
  have hknown : r.Known := (Run.known_start directory).steps past
  refine ⟨fun seat table steps => r.rows_steps hrooted seat table steps,
    fun name config seat table => ⟨?_, ?_⟩, ?_, ?_⟩
  · exact r.rows_step hrooted seat table (.openAs name config)
  · rw [r.rows_step hrooted, r.accepted_of_change?_eq_none _ name rfl]
    rfl
  · intro name config parts hbackend hpath hopen user
    exact Run.list_openAs hbackend hpath hopen user
  · intro name number hname steps closed clone hclone
    exact hknown.refuses_of_closed hname steps hclone

/-- A store is closed while another name stands for it too.  One that is opened
after that on another path to its file takes over its rows, and an attempt to
open a third one changes nothing. -/
theorem rows_outlive_stores_under_two_names :
    let config : StoreConfig :=
      { backend := .durable, database := "a.db", table := "t" }
    let respelled := { config with database := "./b/../a.db" }
    let past : List Step :=
      [.openAs "s" config, .act "s" (.share "u"), .act "s" (.add "ann" "b")]
    let r := (Run.start ⟨[]⟩).steps past
    let steps : List Step :=
      [.openAs "v" respelled, .act "v" (.add "bob" "b"),
        .openAs "w" { config with table := "as" },
        .act "v" (.remove "ann" "b"), .act "u" (.add "bob" "c"),
        .act "v" (.add "ann" "a")]
    let seat : Seat := .file ["a.db"]
    let closed := (r.step (.act "s" .close)).2.1.steps steps
    let reopened := r.step (.openAs "s" respelled)
    r.history (·.leadsTo seat "T") (.act "s" .close :: steps) =
        [.add ⟨"bob", "b"⟩, .remove ⟨"ann", "b"⟩, .add ⟨"ann", "a"⟩] ∧
      closed.storage.rows seat "T" = [⟨"bob", "b"⟩, ⟨"ann", "a"⟩] ∧
      reopened.1 = .opened .durable ∧
      (reopened.2.1.step (.act "s" (.list "ann"))).1 = .urls ["b"] ∧
      closed.stores.lookup "u" = some (.durable 0) ∧ closed.Refuses "u" := by
  intro config respelled past
  have hname : sameName "T" "t" := by
    rw [sameName_iff, show foldCase "T" = "t" by decide +kernel]
    decide +kernel
  have hpath : Location.ofPath respelled.database = .ok (.file ["a.db"]) := by
    decide +kernel
  have hr : (Run.start ⟨[]⟩).steps past =
      ⟨⟨⟨[]⟩, [(.file ["a.db"], [⟨"t", [⟨"ann", "b"⟩]⟩])], [],
          [⟨.file ["a.db"], "t", false⟩]⟩,
        [("u", .durable 0), ("s", .durable 0)]⟩ := by decide +kernel
  have key := rows_outlive_stores ⟨[]⟩ past
  rw [hr] at key ⊢
  intro r steps seat closed reopened
  obtain ⟨hlaw, -, hlater, hrefuses⟩ := key
  have hhistory : r.history (·.leadsTo seat "T") (.act "s" .close :: steps) =
        [.add ⟨"bob", "b"⟩, .remove ⟨"ann", "b"⟩, .add ⟨"ann", "a"⟩] := by
    simp only [leadsTo_congr _ _ hname]
    decide +kernel
  have hbefore : r.storage.rows seat "T" = [⟨"ann", "b"⟩] := by
    rw [rows_congr _ _ hname]
    decide +kernel
  have hrows : closed.storage.rows seat "T" = [⟨"bob", "b"⟩, ⟨"ann", "a"⟩] := by
    have hfold := hlaw seat "T" (.act "s" .close :: steps)
    rw [hhistory, hbefore, Run.steps] at hfold
    exact hfold
  have hopen : reopened.1 = .opened .durable := by decide +kernel
  have hlist := hlater "s" respelled ["a.db"] rfl hpath hopen "ann"
  rw [← rows_congr _ _ hname, hbefore] at hlist
  have hclone : closed.stores.lookup "u" = some (.durable 0) := by
    decide +kernel
  have hrefused := hrefuses "s" 0 rfl steps "u" hclone
  exact ⟨hhistory, hrows, hopen, hlist, hclone, hrefused⟩

end Newsstand.Storage
