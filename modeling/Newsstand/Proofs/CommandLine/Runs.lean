import Newsstand.Proofs.CommandLine.Commands

/-!
# Runs of the command line compose

Every run sets an aggregator up, carries one command out on it and closes its
store.  With a database file, the next run finds what this one has left: the
aggregator that it sets up has the same subscriptions as one that stays in use
and carries all commands out itself.  Opening the store does not get in the way
of this, since it fails or succeeds for all runs alike, and a file from which a
configuration is read is never taken for a database.
-/

namespace Newsstand

/-- A configuration that asks for a durable store comes from a file that has a
text. -/
theorem Config.exists_text_of_load {path : String} {file : FileRead}
    {config : Config} (h : (Config.load path file).1 = .ok config)
    (hbackend : config.store.backend = .durable) :
    ∃ octet octets, file = .ok (octet :: octets) := by
  unfold Config.load at h
  split at h
  next =>
      obtain rfl := Except.ok.inj h
      cases hbackend
  next => cases h
  next octets =>
      cases octets with
      | cons octet octets => exact ⟨octet, octets, rfl⟩
      | nil =>
          have htext : FileRead.text (.ok []) = .ok "" := by decide +kernel
          have hread : (Config.read "").1 = .ok {} := by rfl
          rw [if_neg (by simp), htext] at h
          rw [hread] at h
          obtain rfl := Except.ok.inj h
          cases hbackend

/-- The file of a configuration is read as before once the store has been opened
for which it asks. -/
theorem Storage.readFile_openStore_of_load {s : Storage} {path : String}
    {config : Config}
    (h : (Config.load path (s.readFile path)).1 = .ok config) :
    (s.openStore config.store).2.1.readFile path = s.readFile path := by
  cases hbackend : config.store.backend with
  | volatile =>
      simp only [openStore, hbackend]
      rfl
  | durable =>
      obtain ⟨octet, octets, hfile⟩ := Config.exists_text_of_load h hbackend
      exact readFile_openStore hfile config.store

namespace Aggregator

variable {a b c : Aggregator} {storage t : Storage} {network : Network}
  {config : Config}

/-! ## Aggregators that are set up -/

theorem setUp_eq_ok (h : (setUp storage network config).1 = .ok a) :
    checkFetching config = .ok () ∧
      (∃ log, storage.openStore config.store = (.ok a.store, a.storage, log)) ∧
      a.fetcher = .ofConfig config.fetch config.breaker network := by
  unfold setUp at h
  split at h
  next => cases h
  next store t log hopen =>
      split at h
      next => cases h
      next hcheck =>
          obtain rfl := Except.ok.inj h
          exact ⟨hcheck, ⟨log, hopen⟩, rfl⟩

theorem setUp_of_openStore {store : Store} {log : Log}
    (hcheck : checkFetching config = .ok ())
    (hopen : storage.openStore config.store = (.ok store, t, log)) :
    (setUp storage network config).1 =
      .ok ⟨t, store, .ofConfig config.fetch config.breaker network⟩ := by
  simp only [setUp, hopen, hcheck]

theorem isOk_setUp (storage : Storage) (network : Network) (config : Config) :
    (setUp storage network config).1.isOk =
      ((storage.openStore config.store).1.isOk &&
        (checkFetching config).isOk) := by
  unfold setUp
  split
  next heq =>
      rw [heq]
      rfl
  next heq =>
      rw [heq]
      split <;>
        next hcheck =>
          rw [hcheck]
          rfl

theorem setUp_storage (storage : Storage) (network : Network)
    (config : Config) :
    (setUp storage network config).2.1 =
      (storage.openStore config.store).2.1 := by
  unfold setUp
  split
  next heq => rw [heq]
  next heq =>
      rw [heq]
      split <;> rfl

/-- A list comes to its end on an aggregator that has just been set up. -/
theorem succeeds_list_of_setUp (hrooted : storage.Rooted)
    (h : (setUp storage network config).1 = .ok a) (user : String) :
    a.Succeeds (.list user) := by
  obtain ⟨-, ⟨log, hopen⟩, hfetcher⟩ := setUp_eq_ok h
  have hlater := hrooted.openStore config.store
  rw [hopen] at hlater
  obtain ⟨roll, hholds⟩ := hlater.holds (Storage.has_openStore hopen)
    (Storage.isOpen_openStore hopen)
  have hurls : a.urls user = .ok (roll user) := hholds.list user
  have hpool : a.fetcher.pool = (WorkerPool.Run.start (.create
      config.fetch.group config.fetch.workerPoolSize
        config.fetch.queueDepth)).pool := by
    rw [hfetcher]
    rfl
  have hworkers : 0 < max 1 config.fetch.workerPoolSize :=
    Nat.lt_of_lt_of_le Nat.one_pos (le_max_left _ _)
  have hlively := lively_ofUrls (WorkerPool.Run.inOrder_start _ _ _) hpool rfl
    hworkers (Or.inl hworkers) (roll user)
  exact comes_of_lively hurls hlively

/-! ## Aggregators with the same subscriptions -/

/-- The store of an aggregator is open on a table. -/
structure Serves (a : Aggregator) (seat : Seat) (table : String) : Prop where
  rooted : a.storage.Rooted
  leads : a.storage.leadsTo seat table a.store

/-- Two aggregators are on the same table of the same files, and find the same
rows in it. -/
structure Matches (seat : Seat) (table : String) (a b : Aggregator) :
    Prop where
  left : a.Serves seat table
  right : b.Serves seat table
  alike : a.storage.Alike b.storage
  rows : b.storage.rows seat table = a.storage.rows seat table

variable {seat : Seat} {table : String}

theorem Serves.isOpen (h : a.Serves seat table) :
    a.storage.isOpen a.store :=
  Storage.isOpen_of_leadsTo h.leads

theorem Serves.urls (h : a.Serves seat table) (user : String) :
    a.urls user = .ok (Roll.ofRows (a.storage.rows seat table) user) :=
  Storage.list_of_leadsTo h.rooted h.leads user

/-- A command makes its changes in the table that an aggregator is on. -/
theorem Serves.carryOut (h : a.Serves seat table) (command : Command) :
    (a.carryOut command).2.Serves seat table ∧
      a.storage.Alike (a.carryOut command).2.storage ∧
      (a.carryOut command).2.storage.rows seat table =
        (command.changes a.storage.readFile).foldl Change.apply
          (a.storage.rows seat table) := by
  obtain ⟨hstore, hedited⟩ := carried_carryOut h.rooted h.isOpen command
  refine ⟨⟨hedited.rooted, ?_⟩, hedited.alike, ?_⟩
  · rw [hstore, hedited.leadsTo]
    exact h.leads
  · rw [hedited.rows, if_pos h.leads]

theorem Matches.trans (hab : Matches seat table a b)
    (hbc : Matches seat table b c) : Matches seat table a c :=
  ⟨hab.left, hbc.right, hab.alike.trans hbc.alike, hbc.rows.trans hab.rows⟩

theorem Matches.refl (h : a.Serves seat table) : Matches seat table a a :=
  ⟨h, h, .refl _, rfl⟩

/-- A command does the same on both of two aggregators. -/
theorem Matches.carryOut (h : Matches seat table a b) (command : Command) :
    Matches seat table (a.carryOut command).2 (b.carryOut command).2 := by
  obtain ⟨hleft, hleftAlike, hleftRows⟩ := h.left.carryOut command
  obtain ⟨hright, hrightAlike, hrightRows⟩ := h.right.carryOut command
  refine ⟨hleft, hright,
    hleftAlike.symm.trans (h.alike.trans hrightAlike), ?_⟩
  rw [hleftRows, hrightRows, h.rows, h.alike.readFile]

theorem Matches.urls (h : Matches seat table a b) (user : String) :
    ∃ urls, b.urls user = .ok urls ∧ a.urls user = .ok urls :=
  ⟨_, h.rows ▸ h.right.urls user, h.left.urls user⟩

/-- The aggregator after commands one after another. -/
def performAll (a : Aggregator) (commands : List Command) : Aggregator :=
  commands.foldl (fun a command => (a.carryOut command).2) a

end Aggregator

namespace Machine

open Aggregator

variable {m n : Machine} {path : String} {config : Config}
  {arguments : List String} {command : Command} {a b : Aggregator}

/-! ## What a run does -/

/-- The path of the configuration and the command that a run is asked for. -/
def request? (m : Machine) (arguments : List String) :
    Option (String × Command) :=
  match Invocation.ofArguments arguments with
  | .command given? command =>
      (m.configPath? given?).map fun path => (path, command)
  | _ => none

/-- The aggregator that is set up under the configuration at a path. -/
def aggregator? (m : Machine) (path : String) : Option Aggregator :=
  match (Config.load path (m.storage.readFile path)).1 with
  | .error _ => none
  | .ok config => (Aggregator.setUp m.storage m.network config).1.toOption

/-- The commands of runs. -/
def commands (m : Machine) (past : List (List String)) : List Command :=
  past.filterMap fun arguments => (m.request? arguments).map (·.2)

theorem request?_congr (h : n.home? = m.home?) : n.request? = m.request? := by
  funext arguments
  simp only [request?, configPath?, h]

theorem aggregator?_eq_some
    (hload : (Config.load path (m.storage.readFile path)).1 = .ok config) :
    m.aggregator? path = some a ↔
      (Aggregator.setUp m.storage m.network config).1 = .ok a := by
  simp only [aggregator?, hload]
  cases (Aggregator.setUp m.storage m.network config).1 <;>
    simp [Except.toOption]

theorem exists_config_of_aggregator? (h : m.aggregator? path = some a) :
    ∃ config, (Config.load path (m.storage.readFile path)).1 = .ok config ∧
      (Aggregator.setUp m.storage m.network config).1 = .ok a := by
  cases hload : (Config.load path (m.storage.readFile path)).1 with
  | error fault => simp [aggregator?, hload] at h
  | ok config => exact ⟨config, rfl, (aggregator?_eq_some hload).mp h⟩

theorem isSome_aggregator?
    (hload : (Config.load path (m.storage.readFile path)).1 = .ok config) :
    (m.aggregator? path).isSome =
      ((m.storage.openStore config.store).1.isOk &&
        (checkFetching config).isOk) := by
  rw [← isOk_setUp m.storage m.network]
  simp only [aggregator?, hload]
  cases (Aggregator.setUp m.storage m.network config).1 <;> rfl

theorem run_of_request?_eq_none (h : m.request? arguments = none) :
    (m.run arguments).2 = m := by
  unfold request? at h
  unfold run
  split
  next => rfl
  next => rfl
  next => rfl
  next given? command heq =>
      rw [heq, Option.map_eq_none_iff] at h
      rw [h]

/-- Whatever keeps an aggregator from being set up, the run fails. -/
theorem exit_ofSetupFault_ne_zero (fault : SetupFault) :
    (RunResult.ofSetupFault fault).exit ≠ 0 := by
  cases fault <;>
    simp [RunResult.ofSetupFault, RunResult.stopped, RunResult.brokenOff]

/-- A run for which no aggregator can be set up fails; at most a store has been
opened. -/
theorem run_of_aggregator?_eq_none
    (hrequest : m.request? arguments = some (path, command))
    (h : m.aggregator? path = none) :
    (m.run arguments).1.exit ≠ 0 ∧ ((m.run arguments).2 = m ∨
      ∃ config, (Config.load path (m.storage.readFile path)).1 = .ok config ∧
        (m.run arguments).2 =
          { m with storage := (m.storage.openStore config.store).2.1 }) := by
  unfold request? at hrequest
  split at hrequest
  next given? asked heq =>
      obtain ⟨given, hpath, hpair⟩ := Option.map_eq_some_iff.mp hrequest
      obtain ⟨rfl, rfl⟩ := Prod.mk.inj hpair
      simp only [run, heq, hpath]
      split
      next => exact ⟨Nat.one_ne_zero, Or.inl rfl⟩
      next config hload =>
          have hstorage := setUp_storage m.storage m.network config
          simp only [aggregator?, hload] at h
          rcases hset : Aggregator.setUp m.storage m.network config with
            ⟨result, storage, log⟩
          rw [hset] at h hstorage
          cases result with
          | ok a => cases h
          | error fault =>
              simp only [perform, hset]
              exact ⟨exit_ofSetupFault_ne_zero fault,
                Or.inr ⟨config, hload, by rw [← hstorage]⟩⟩
  next => cases hrequest

/-- A run carries its command out on the aggregator that it has set up, and
closes the store. -/
theorem run_of_aggregator?_eq_some
    (hrequest : m.request? arguments = some (path, command))
    (h : m.aggregator? path = some a) :
    m.run arguments = ((a.carryOut command).1,
      { m with
        storage := (a.carryOut command).2.storage.close
          (a.carryOut command).2.store
        network := (a.carryOut command).2.fetcher.network }) := by
  obtain ⟨config, hload, hset⟩ := exists_config_of_aggregator? h
  rcases hsetUp : Aggregator.setUp m.storage m.network config with
    ⟨result, storage, log⟩
  rw [hsetUp] at hset
  obtain rfl : result = .ok a := hset
  unfold request? at hrequest
  split at hrequest
  next given? asked heq =>
      obtain ⟨given, hpath, hpair⟩ := Option.map_eq_some_iff.mp hrequest
      obtain ⟨rfl, rfl⟩ := Prod.mk.inj hpair
      simp only [run, heq, hpath, hload, perform, hsetUp]
      rfl
  next => cases hrequest

/-! ## What a run leaves -/

/-- The aggregator of a run can serve requests, and opening its store has changed
no rows. -/
theorem exists_openStore_of_aggregator? (hrooted : m.storage.Rooted)
    (h : m.aggregator? path = some a) :
    a.storage.Rooted ∧ a.storage.isOpen a.store ∧
      ∀ seat table, a.storage.rows seat table = m.storage.rows seat table := by
  obtain ⟨config, -, hset⟩ := exists_config_of_aggregator? h
  obtain ⟨-, ⟨log, hopen⟩, -⟩ := setUp_eq_ok hset
  have hlater := hrooted.openStore config.store
  have hrows := m.storage.rows_openStore config.store
  rw [hopen] at hlater hrows
  exact ⟨hlater, Storage.isOpen_openStore hopen, hrows⟩

/-- What a run leaves as it is. -/
structure Keeps (m : Machine) (path : String) (n : Machine) : Prop where
  rooted : n.storage.Rooted
  home? : n.home? = m.home?
  readFile : n.storage.readFile path = m.storage.readFile path

theorem Keeps.refl (h : m.storage.Rooted) (path : String) : m.Keeps path m :=
  ⟨h, rfl, rfl⟩

/-- A run under a configuration leaves the file of the configuration and the
connections in order. -/
theorem keeps_run (hrooted : m.storage.Rooted)
    (hload : (Config.load path (m.storage.readFile path)).1 = .ok config)
    (hpath : ∀ request ∈ m.request? arguments, request.1 = path) :
    m.Keeps path (m.run arguments).2 := by
  cases hrequest : m.request? arguments with
  | none =>
      rw [run_of_request?_eq_none hrequest]
      exact .refl hrooted path
  | some request =>
      obtain ⟨other, command⟩ := request
      obtain rfl : other = path := hpath _ hrequest
      cases hbegun : m.aggregator? other with
      | none =>
          obtain ⟨-, hsame | ⟨found, hfound, hopened⟩⟩ :=
            run_of_aggregator?_eq_none hrequest hbegun
          · rw [hsame]
            exact .refl hrooted other
          · rw [hopened]
            exact ⟨hrooted.openStore _, rfl,
              Storage.readFile_openStore_of_load hfound⟩
      | some a =>
          obtain ⟨hopened, hopen, -⟩ :=
            exists_openStore_of_aggregator? hrooted hbegun
          obtain ⟨-, ⟨log, hstore⟩, -⟩ :=
            setUp_eq_ok ((aggregator?_eq_some hload).mp hbegun)
          have hread := Storage.readFile_openStore_of_load hload
          rw [hstore] at hread
          have hedited := (carried_carryOut hopened hopen command).edited
          rw [run_of_aggregator?_eq_some hrequest hbegun]
          refine ⟨hedited.rooted.close _, rfl, ?_⟩
          rw [(hedited.alike.close _).readFile]
          exact hread

theorem Keeps.load (h : m.Keeps path n)
    (hload : (Config.load path (m.storage.readFile path)).1 = .ok config) :
    (Config.load path (n.storage.readFile path)).1 = .ok config := by
  rw [h.readFile, hload]

theorem keeps_runs (hrooted : m.storage.Rooted)
    (hload : (Config.load path (m.storage.readFile path)).1 = .ok config)
    {past : List (List String)}
    (hpast : ∀ arguments ∈ past, ∀ request ∈ m.request? arguments,
      request.1 = path) : m.Keeps path (m.runs past).2 := by
  induction past generalizing m with
  | nil => exact .refl hrooted path
  | cons arguments past ih =>
      obtain ⟨hfirst, hrest⟩ := List.forall_mem_cons.mp hpast
      have hkept := keeps_run hrooted hload hfirst
      rw [← request?_congr hkept.home?] at hrest
      have hlater := ih hkept.rooted (hkept.load hload) hrest
      exact ⟨hlater.rooted, hlater.home?.trans hkept.home?,
        hlater.readFile.trans hkept.readFile⟩

/-! ## Success and failure -/

theorem exit_run_eq_zero_iff (hrooted : m.storage.Rooted)
    (hrequest : m.request? arguments = some (path, command)) :
    (m.run arguments).1.exit = 0 ↔
      ∃ b, m.aggregator? path = some b ∧ b.Succeeds command := by
  cases hbegun : m.aggregator? path with
  | none =>
      obtain ⟨hexit, -⟩ := run_of_aggregator?_eq_none hrequest hbegun
      simp [hexit]
  | some a =>
      obtain ⟨hopened, hopen, -⟩ :=
        exists_openStore_of_aggregator? hrooted hbegun
      rw [run_of_aggregator?_eq_some hrequest hbegun,
        exit_carryOut_eq_zero_iff hopened hopen]
      simp

/-- A run that says that it has failed changes no rows, and neither does one that
cannot set an aggregator up. -/
theorem rows_run_of_failed (hrooted : m.storage.Rooted)
    (hrequest : m.request? arguments = some (path, command))
    (h : m.aggregator? path = none ∨
      (m.run arguments).1.output = failedOutput) (seat : Seat)
    (table : String) :
    (m.run arguments).2.storage.rows seat table =
      m.storage.rows seat table := by
  cases hbegun : m.aggregator? path with
  | none =>
      obtain ⟨-, hsame | ⟨config, -, hopened⟩⟩ :=
        run_of_aggregator?_eq_none hrequest hbegun
      · rw [hsame]
      · rw [hopened]
        exact m.storage.rows_openStore config.store seat table
  | some a =>
      obtain ⟨hopened, hopen, hrows⟩ :=
        exists_openStore_of_aggregator? hrooted hbegun
      have hfailed := h.resolve_left (by simp [hbegun])
      rw [run_of_aggregator?_eq_some hrequest hbegun] at hfailed ⊢
      have hedited := (carried_carryOut hopened hopen command).edited
      rw [changes_eq_nil_of_failed hopened hopen hfailed] at hedited
      show (Storage.close _ _).rows seat table = _
      rw [Storage.rows_close, hedited.rows, ite_self, List.foldl_nil, hrows]

/-! ## One run after another -/

/-- With a database file, the next run sets up an aggregator that has the
subscriptions which this one has left. -/
theorem exists_aggregator?_run (hrooted : m.storage.Rooted)
    (hload : (Config.load path (m.storage.readFile path)).1 = .ok config)
    (hbackend : config.store.backend = .durable) {parts : List String}
    (hparts : Location.ofPath config.store.database = .ok (.file parts))
    (hrequest : m.request? arguments = some (path, command))
    (hbegun : m.aggregator? path = some b) :
    ∃ c, (m.run arguments).2.aggregator? path = some c ∧
      Matches (.file parts) config.store.table (b.carryOut command).2 c := by
  obtain ⟨hcheck, ⟨log, hopen⟩, -⟩ :=
    setUp_eq_ok ((aggregator?_eq_some hload).mp hbegun)
  have hrooted' := hrooted.openStore config.store
  have hdirectory := m.storage.directory_openStore config.store
  rw [hopen] at hrooted' hdirectory
  have hserves : b.Serves (.file parts) config.store.table :=
    ⟨hrooted', Storage.leadsTo_openStore hbackend hparts hopen⟩
  obtain ⟨hlater, halike, -⟩ := hserves.carryOut command
  have hrequested : ∀ request ∈ m.request? arguments, request.1 = path := by
    rw [hrequest]
    simp
  have hkept := keeps_run hrooted hload hrequested
  have hloaded := hkept.load hload
  rw [run_of_aggregator?_eq_some hrequest hbegun] at hkept hloaded ⊢
  set u := (b.carryOut command).2.storage.close (b.carryOut command).2.store
    with hu
  obtain ⟨number, c, -, hc, hseat, htable⟩ :=
    Storage.exists_of_leadsTo hlater.leads
  obtain ⟨d, hd, hdseat, hdtable⟩ := Storage.exists_mem_connections_close
    (Storage.mem_connections hc) (b.carryOut command).2.store
  have hclosed := (Storage.Alike.refl (b.carryOut command).2.storage).close
    (b.carryOut command).2.store
  obtain ⟨again, v, hagain, hsame⟩ :=
    Storage.openStore_again hbackend hparts hopen
      (hclosed.directory.trans (halike.directory.trans hdirectory))
      hkept.rooted hd (hdseat.trans hseat) (hdtable ▸ htable)
  have hagainRooted := hkept.rooted.openStore config.store
  have hagainRows := u.rows_openStore config.store
  rw [hagain] at hagainRooted hagainRows
  refine ⟨_, (aggregator?_eq_some hloaded).mpr
    (setUp_of_openStore hcheck hagain), hlater, ?_, hclosed.trans hsame, ?_⟩
  · exact ⟨hagainRooted, Storage.leadsTo_openStore hbackend hparts hagain⟩
  · rw [hagainRows, hu, Storage.rows_close]

theorem commands_cons_of_none (h : m.request? arguments = none)
    (past : List (List String)) :
    m.commands (arguments :: past) = m.commands past := by
  rw [commands, List.filterMap_cons_none (by rw [h, Option.map_none]), commands]

theorem commands_cons_of_some
    (h : m.request? arguments = some (path, command))
    (past : List (List String)) :
    m.commands (arguments :: past) = command :: m.commands past := by
  rw [commands, List.filterMap_cons_some (by rw [h, Option.map_some]), commands]

/-- After runs the next one sets up an aggregator that has the subscriptions of
one that has carried out their commands itself. -/
theorem exists_aggregator?_runs (hrooted : m.storage.Rooted)
    (hload : (Config.load path (m.storage.readFile path)).1 = .ok config)
    (hbackend : config.store.backend = .durable) {parts : List String}
    (hparts : Location.ofPath config.store.database = .ok (.file parts))
    {past : List (List String)}
    (hpast : ∀ arguments ∈ past, ∀ request ∈ m.request? arguments,
      request.1 = path)
    (hbegun : m.aggregator? path = some b)
    (hmatches : Matches (.file parts) config.store.table a b) :
    ∃ c, (m.runs past).2.aggregator? path = some c ∧
      Matches (.file parts) config.store.table
        (a.performAll (m.commands past)) c := by
  induction past generalizing m a b with
  | nil => exact ⟨b, hbegun, hmatches⟩
  | cons arguments past ih =>
      obtain ⟨hfirst, hrest⟩ := List.forall_mem_cons.mp hpast
      have hruns : (m.runs (arguments :: past)).2 =
          ((m.run arguments).2.runs past).2 := rfl
      rw [hruns]
      cases hrequest : m.request? arguments with
      | none =>
          rw [run_of_request?_eq_none hrequest, commands_cons_of_none hrequest]
          exact ih hrooted hload hrest hbegun hmatches
      | some request =>
          obtain ⟨other, command⟩ := request
          obtain rfl : other = path := hfirst _ hrequest
          have hkept := keeps_run hrooted hload hfirst
          obtain ⟨c, hnext, hsame⟩ := exists_aggregator?_run hrooted hload
            hbackend hparts hrequest hbegun
          have hrequests := request?_congr hkept.home?
          have hlater := ih hkept.rooted (hkept.load hload)
            (hrequests ▸ hrest) hnext ((hmatches.carryOut command).trans hsame)
          rw [commands, hrequests] at hlater
          rw [commands_cons_of_some hrequest]
          exact hlater

/-- Where no aggregator can be set up, none can be set up after a run either. -/
theorem aggregator?_run_eq_none (hrooted : m.storage.Rooted)
    (hload : (Config.load path (m.storage.readFile path)).1 = .ok config)
    (hpath : ∀ request ∈ m.request? arguments, request.1 = path)
    (h : m.aggregator? path = none) :
    (m.run arguments).2.aggregator? path = none := by
  cases hrequest : m.request? arguments with
  | none => rw [run_of_request?_eq_none hrequest, h]
  | some request =>
      obtain ⟨other, command⟩ := request
      obtain rfl : other = path := hpath _ hrequest
      obtain ⟨-, hsame | ⟨found, hfound, hopened⟩⟩ :=
        run_of_aggregator?_eq_none hrequest h
      · rw [hsame, h]
      · obtain rfl : found = config := Except.ok.inj (hfound.symm.trans hload)
        have hloaded := (keeps_run hrooted hload hpath).load hload
        have hnone := isSome_aggregator? hload
        rw [h, Option.isSome_none] at hnone
        rw [← Option.not_isSome_iff_eq_none, isSome_aggregator? hloaded]
        cases hok : (m.storage.openStore found.store).1.isOk with
        | false =>
            rw [hopened, Storage.openStore_of_not_isOk hok, hok]
            simp
        | true =>
            rw [hok, Bool.true_and] at hnone
            rw [← hnone, Bool.and_false]
            simp

theorem aggregator?_runs_eq_none (hrooted : m.storage.Rooted)
    (hload : (Config.load path (m.storage.readFile path)).1 = .ok config)
    {past : List (List String)}
    (hpast : ∀ arguments ∈ past, ∀ request ∈ m.request? arguments,
      request.1 = path) (h : m.aggregator? path = none) :
    (m.runs past).2.aggregator? path = none := by
  induction past generalizing m with
  | nil => exact h
  | cons arguments past ih =>
      obtain ⟨hfirst, hrest⟩ := List.forall_mem_cons.mp hpast
      have hkept := keeps_run hrooted hload hfirst
      rw [← request?_congr hkept.home?] at hrest
      exact ih hkept.rooted (hkept.load hload) hrest
        (aggregator?_run_eq_none hrooted hload hfirst h)

/-- With a store in memory, an aggregator is set up without subscriptions, if
nothing else is at fault. -/
theorem aggregator?_of_volatile
    (hload : (Config.load path (m.storage.readFile path)).1 = .ok config)
    (hbackend : config.store.backend = .volatile) :
    (m.aggregator? path).isSome = (checkFetching config).isOk ∧
      ∀ b, m.aggregator? path = some b → ∀ user, b.urls user = .ok [] := by
  have hopen : m.storage.openStore config.store =
      (.ok m.storage.openVolatile.1, m.storage.openVolatile.2, []) := by
    simp only [Storage.openStore, hbackend]
  refine ⟨?_, fun b hbegun user => ?_⟩
  · rw [isSome_aggregator? hload, hopen]
    rfl
  · obtain ⟨-, ⟨log, hstore⟩, -⟩ :=
      setUp_eq_ok ((aggregator?_eq_some hload).mp hbegun)
    rw [hopen] at hstore
    obtain ⟨hstore, hrest⟩ := Prod.mk.inj hstore
    have hholds := Storage.holds_openVolatile m.storage
    rw [Except.ok.inj hstore, (Prod.mk.inj hrest).1] at hholds
    exact hholds.list user

/-- Runs under one configuration compose.  With a store in memory each of them
begins without subscriptions.  With a database file, either all of them or none
can set an aggregator up, and what each of them finds is what one aggregator
would have that had stayed in use and carried out the commands of the earlier
runs; it replies as that one would, but for the feeds it lists.  A run exits with
zero if its operation succeeds.  One that says that it has failed, or that cannot
set an aggregator up, changes no rows. -/
theorem runs_compose (m : Machine) (hrooted : m.storage.Rooted) (path : String)
    (config : Config)
    (hload : (Config.load path (m.storage.readFile path)).1 = .ok config)
    (past : List (List String))
    (hpast : ∀ arguments ∈ past, ∀ request ∈ m.request? arguments,
      request.1 = path) :
    let n := (m.runs past).2
    (config.store.backend = .volatile →
      (n.aggregator? path).isSome = (m.aggregator? path).isSome ∧
        ∀ b, n.aggregator? path = some b → ∀ user, b.urls user = .ok []) ∧
    (config.store.backend = .durable → ∀ parts,
      Location.ofPath config.store.database = .ok (.file parts) →
      (m.aggregator? path = none → n.aggregator? path = none) ∧
        ∀ a, m.aggregator? path = some a →
          let session := a.performAll (m.commands past)
          ∃ b, n.aggregator? path = some b ∧
            (∀ user, ∃ urls,
              b.urls user = .ok urls ∧ session.urls user = .ok urls) ∧
            ∀ arguments command,
              n.request? arguments = some (path, command) →
              (∀ user, command ≠ .list user) →
              (n.run arguments).1 = (session.carryOut command).1) ∧
    ∀ arguments other command,
      n.request? arguments = some (other, command) →
      ((n.run arguments).1.exit = 0 ↔
        ∃ b, n.aggregator? other = some b ∧ b.Succeeds command) ∧
      (∀ b, n.aggregator? other = some b →
        (n.run arguments).1 = (b.carryOut command).1 ∧
          ∀ user, b.Succeeds (.list user)) ∧
      (n.aggregator? other = none ∨
          (n.run arguments).1.output = failedOutput →
        ∀ seat table, (n.run arguments).2.storage.rows seat table =
          n.storage.rows seat table) := by
  intro n
  have hkept : m.Keeps path n := keeps_runs hrooted hload hpast
  have hloaded := hkept.load hload
  refine ⟨fun hbackend => ?_, fun hbackend parts hparts => ⟨?_, ?_⟩, ?_⟩
  · obtain ⟨hsome, hempty⟩ := aggregator?_of_volatile hloaded hbackend
    rw [hsome, (aggregator?_of_volatile hload hbackend).1]
    exact ⟨rfl, hempty⟩
  · exact aggregator?_runs_eq_none hrooted hload hpast
  · intro a hbegun session
    obtain ⟨-, ⟨log, hopen⟩, -⟩ :=
      setUp_eq_ok ((aggregator?_eq_some hload).mp hbegun)
    have hserves : a.Serves (.file parts) config.store.table :=
      ⟨(exists_openStore_of_aggregator? hrooted hbegun).1,
        Storage.leadsTo_openStore hbackend hparts hopen⟩
    obtain ⟨b, hnext, hmatches⟩ := exists_aggregator?_runs hrooted hload
      hbackend hparts hpast hbegun (.refl hserves)
    refine ⟨b, hnext, hmatches.urls, fun arguments command hrequest hlist => ?_⟩
    rw [run_of_aggregator?_eq_some hrequest hnext]
    exact carryOut_fst_congr hmatches.right.rooted hmatches.left.rooted
      hmatches.right.isOpen hmatches.left.isOpen hmatches.alike.readFile hlist
  · intro arguments other command hrequest
    refine ⟨exit_run_eq_zero_iff hkept.rooted hrequest, fun b hnext => ⟨?_, ?_⟩,
      rows_run_of_failed hkept.rooted hrequest⟩
    · rw [run_of_aggregator?_eq_some hrequest hnext]
    · obtain ⟨found, -, hset⟩ := exists_config_of_aggregator? hnext
      exact succeeds_list_of_setUp hkept.rooted hset

/-- A user subscribes to a feed, asks for one that is none, imports another one
and gives the first one up.  The one that is left is found, and the database is
no outline that could be imported. -/
theorem runs_compose_past_failure :
    let content := "[store]\nbackend = 'durable'\ndatabase = 'a.db'"
    let outline := "<outline xmlUrl='http://b.test/'/>"
    let m : Machine :=
      ⟨.start (.ofFiles [("c.toml", content.toUTF8.toList),
        ("f.opml", outline.toUTF8.toList)]), .scripted [], none⟩
    let past : List (List String) :=
      [["--config=c.toml", "subscribe", "ann", "http://a.test/"],
        ["--config=c.toml", "subscribe", "ann", "a"],
        ["import", "ann", "f.opml", "--config", "c.toml"],
        ["unsubscribe", "ann", "--config=c.toml", " http://a.test/"]]
    let n := (m.runs past).2
    let last := ["--config=c.toml", "import", " ", "a.db"]
    (∃ b, n.aggregator? "c.toml" = some b ∧
        b.urls "ann" = .ok ["http://b.test/"]) ∧
      (n.run ["--config=c.toml", "list", "ann"]).1.exit = 0 ∧
      (n.run last).1.output = failedOutput ∧
      ∀ seat table,
        (n.run last).2.storage.rows seat table = n.storage.rows seat table := by
  intro content outline m past n last
  have hrooted : m.storage.Rooted := Storage.rooted_start _
  have hload : (Config.load "c.toml" (m.storage.readFile "c.toml")).1 =
      .ok { store := { backend := .durable, database := "a.db" } } := by
    decide +kernel
  have hpast : ∀ arguments ∈ past, ∀ request ∈ m.request? arguments,
      request.1 = "c.toml" := by decide +kernel
  obtain ⟨-, hdurable, hnext⟩ :=
    runs_compose m hrooted "c.toml" _ hload past hpast
  have hparts : Location.ofPath "a.db" = .ok (.file ["a.db"]) := by
    decide +kernel
  have hsession : ((m.aggregator? "c.toml").map fun a =>
      (a.performAll (m.commands past)).urls "ann") =
        some (.ok ["http://b.test/"]) := by decide +kernel
  obtain ⟨a, hbegun, hkept⟩ := Option.map_eq_some_iff.mp hsession
  obtain ⟨b, hb, hurls, -⟩ := (hdurable rfl ["a.db"] hparts).2 a hbegun
  obtain ⟨urls, hfound, hheld⟩ := hurls "ann"
  obtain rfl := Except.ok.inj (hheld.symm.trans hkept)
  obtain ⟨hexit, hbegins, -⟩ :=
    hnext ["--config=c.toml", "list", "ann"] "c.toml" (.list "ann")
      (by decide +kernel)
  obtain ⟨-, -, hrows⟩ :=
    hnext last "c.toml" (.importFile " " "a.db") (by decide +kernel)
  have hfailed : (n.run last).1.output = failedOutput := by decide +kernel
  exact ⟨⟨b, hb, hfound⟩, hexit.mpr ⟨b, hb, (hbegins b hb).2 "ann"⟩, hfailed,
    hrows (Or.inr hfailed)⟩

end Machine

end Newsstand
