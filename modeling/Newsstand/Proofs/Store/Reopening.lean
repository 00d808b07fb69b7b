import Newsstand.Proofs.Store.Durability

/-!
# Stores that are opened again

What a store accepts alters the rows of its own table and nothing else: no file
comes or goes, no connection is made or lost.  A store that has been opened once
can therefore be opened again, finds the rows as they were left, and adds nothing
to the storage but its connection.
-/

namespace Newsstand

/-! ## Where paths lead -/

namespace Directory

variable {d : Directory} {here there parts : List String} {part : String}

/-- Who walks on goes to where the next part leads, as long as nothing above the
working directory is known. -/
theorem walk_enter (h : d.walk here (part :: parts) = .ok there)
    (hhere : ".." ∉ here) :
    d.walk (Location.enter here part) parts = .ok there ∧
      ".." ∉ Location.enter here part := by
  rw [walk] at h
  by_cases hstay : part == "" || part == "."
  · rw [if_pos hstay] at h
    rw [Location.enter, if_pos hstay]
    exact ⟨h, hhere⟩
  rw [if_neg hstay] at h
  rw [Location.enter, if_neg hstay]
  by_cases hup : part == ".."
  · rw [if_pos hup] at h
    simp only [hup, Bool.true_and]
    split at h
    next => cases h
    next hsome =>
        obtain ⟨name, hname⟩ :=
          List.exists_mem_of_ne_nil here (by simpa using hsome)
        have hany : here.any (· != "..") := List.any_eq_true.mpr
          ⟨name, hname, by simpa using ne_of_mem_of_not_mem hname hhere⟩
        rw [if_pos hany]
        split
        next hroot =>
            rw [if_pos hroot] at h
            exact ⟨h, hhere⟩
        next hroot =>
            rw [if_neg hroot] at h
            exact ⟨h, fun hmem => hhere (List.dropLast_subset _ hmem)⟩
  · rw [if_neg hup] at h
    simp only [hup, Bool.false_and, Bool.false_eq_true, if_false]
    have hpart : ".." ≠ part := fun heq => hup (beq_iff_eq.mpr heq.symm)
    refine ⟨?_, by simp [hhere, hpart]⟩
    dsimp only at h
    split_ifs at h
    exact h

/-- Who walks along a path comes to where the path leads. -/
theorem eq_foldl_enter_of_walk (h : d.walk here parts = .ok there)
    (hhere : ".." ∉ here) : there = parts.foldl Location.enter here := by
  induction parts generalizing here with
  | nil => exact (Except.ok.inj h).symm
  | cons part parts ih =>
      obtain ⟨hwalk, hnext⟩ := walk_enter h hhere
      rw [List.foldl_cons]
      exact ih hwalk hnext

/-- A file that is not empty stands where its path leads. -/
theorem lookup_resolve_of_read {path : String} {octet : UInt8}
    {octets : List UInt8} (h : d.read path = .ok (octet :: octets)) :
    d.files.lookup (Location.resolve path) = some (octet :: octets) := by
  simp only [read, bind, Except.bind, pure, Except.pure] at h
  split at h
  next => cases h
  next =>
      split at h
      next => cases h
      next =>
          split at h
          next => cases h
          next there hwalk =>
              have hstart : ".." ∉ pathStart path := by
                unfold pathStart
                split <;> decide
              obtain rfl := eq_foldl_enter_of_walk hwalk hstart
              split at h
              next found hfound =>
                  rw [Location.resolve, hfound, Except.ok.inj h]
              next => cases h

end Directory

namespace Storage

variable {s t u : Storage} {store : Store} {path : String}

/-- A file that has a text cannot be used as a database. -/
theorem checkFile_eq_error_of_readFile {octet : UInt8} {octets : List UInt8}
    (h : s.readFile path = .ok (octet :: octets)) :
    ∃ fault, s.checkFile (Location.resolve path) = .error fault := by
  unfold readFile at h
  split at h
  · cases h
  · have hfile := Directory.lookup_resolve_of_read h
    simp only [checkFile, hfile]
    split
    · exact ⟨.cannotOpen, rfl⟩
    · exact ⟨.notDatabase, rfl⟩

/-! ## Storages with the same files -/

/-- Two storages have the same files, of which the same ones are databases. -/
structure Alike (s t : Storage) : Prop where
  directory : t.directory = s.directory
  databases : ∀ seat,
    (t.databases.lookup seat).isSome = (s.databases.lookup seat).isSome

theorem Alike.refl (s : Storage) : s.Alike s :=
  ⟨rfl, fun _ => rfl⟩

theorem Alike.symm (h : s.Alike t) : t.Alike s :=
  ⟨h.directory.symm, fun seat => (h.databases seat).symm⟩

theorem Alike.trans (hst : s.Alike t) (htu : t.Alike u) : s.Alike u :=
  ⟨htu.directory.trans hst.directory,
    fun seat => (htu.databases seat).trans (hst.databases seat)⟩

theorem Alike.readFile (h : s.Alike t) : t.readFile = s.readFile := by
  funext path
  have hdatabase : t.isDatabaseFile path = s.isDatabaseFile path :=
    h.databases _
  rw [Storage.readFile, Storage.readFile, hdatabase, h.directory]

theorem Alike.close (h : s.Alike t) (store : Store) :
    s.Alike (t.close store) := by
  cases store <;> exact ⟨h.directory, h.databases⟩

theorem isSome_lookup_putDatabase (s : Storage) (seat other : Seat)
    (d : Database) :
    ((s.putDatabase seat d).databases.lookup other).isSome =
      (other == seat || (s.databases.lookup other).isSome) := by
  by_cases h : other = seat
  · simp [putDatabase, h]
  · simp only [putDatabase, List.lookup_cons, beq_false_of_ne h,
      lookup_filter_ne s.databases h, Bool.false_or]

/-- The content of a database that is there makes no difference to which ones are
there. -/
theorem alike_putDatabase {seat : Seat}
    (h : (s.databases.lookup seat).isSome) (d : Database) :
    s.Alike (s.putDatabase seat d) := by
  refine ⟨rfl, fun other => ?_⟩
  rw [isSome_lookup_putDatabase]
  by_cases hother : other = seat
  · rw [hother, h, Bool.or_true]
  · rw [beq_false_of_ne hother, Bool.false_or]

/-- To whatever table a connection leads, it is in a database that is there. -/
theorem Rooted.isSome_lookup (h : s.Rooted) {c : Connection}
    (hc : c ∈ s.connections) : (s.databases.lookup c.seat).isSome := by
  have hfound := h c hc
  unfold database at hfound
  cases hlookup : s.databases.lookup c.seat with
  | none => simp [hlookup, Database.find?] at hfound
  | some d => rfl

/-! ## Accepted changes -/

/-- What is left of a storage when changes have been made in the table of a
store, if that is a durable one: all as it was but for the rows of this table. -/
structure Edited (s : Storage) (store : Store) (changes : List Change)
    (t : Storage) : Prop where
  alike : s.Alike t
  connections : t.connections = s.connections
  rooted : t.Rooted
  rows : ∀ seat table, t.rows seat table =
    (if s.leadsTo seat table store then changes else []).foldl Change.apply
      (s.rows seat table)

variable {changes more : List Change}

theorem Edited.refl (h : s.Rooted) (store : Store) : s.Edited store [] s :=
  ⟨.refl s, rfl, h, fun seat table => by rw [ite_self, List.foldl_nil]⟩

theorem Edited.isOpen (h : s.Edited store changes t) :
    t.isOpen store = s.isOpen store := by
  cases store with
  | volatile number => rfl
  | durable number => simp only [Storage.isOpen, connection?, h.connections]

theorem Edited.leadsTo (h : s.Edited store changes t) (seat : Seat)
    (table : String) : t.leadsTo seat table = s.leadsTo seat table := by
  funext other
  simp only [Storage.leadsTo, connection?, h.connections]

theorem Edited.trans (hst : s.Edited store changes t)
    (htu : t.Edited store more u) : s.Edited store (changes ++ more) u := by
  refine ⟨hst.alike.trans htu.alike, htu.connections.trans hst.connections,
    htu.rooted, fun seat table => ?_⟩
  rw [htu.rows, hst.leadsTo, hst.rows]
  split
  · rw [List.foldl_append]
  · rfl

theorem Changed.edited {change : Change}
    (h : s.Changed store change (.ok ()) t) (hrooted : s.Rooted) :
    s.Edited store [change] t := by
  have hrows := h.rows hrooted
  refine ⟨?_, ?_, h.rooted hrooted, fun seat table => ?_⟩
  · cases h with
    | inMemory hstore => exact ⟨rfl, fun _ => rfl⟩
    | inTable hstore hc =>
        exact alike_putDatabase (hrooted.isSome_lookup (mem_connections hc)) _
  · cases h <;> rfl
  · simp only [hrows, and_true]

/-- Open stores accept what is valid. -/
theorem add_eq_ok_of_isOpen (h : s.isOpen store) {user url : String}
    (hvalid : requireUserAndUrl user url = .ok ()) :
    (s.add store user url).1 = .ok () := by
  cases store with
  | volatile number => simp only [Storage.add, hvalid]
  | durable number =>
      obtain ⟨c, hc⟩ := Option.isSome_iff_exists.mp h
      simp only [Storage.add, hvalid, hc]

theorem remove_eq_ok_of_isOpen (h : s.isOpen store) {user url : String}
    (hvalid : requireUserAndUrl user url = .ok ()) :
    (s.remove store user url).1 = .ok () := by
  cases store with
  | volatile number => simp only [Storage.remove, hvalid]
  | durable number =>
      obtain ⟨c, hc⟩ := Option.isSome_iff_exists.mp h
      simp only [Storage.remove, hvalid, hc]

theorem edited_add (hrooted : s.Rooted) (h : s.isOpen store)
    {user url : String} (hvalid : requireUserAndUrl user url = .ok ()) :
    s.Edited store [.add ⟨user, url⟩] (s.add store user url).2.1 := by
  have hchanged := s.changed_add store user url
  rw [add_eq_ok_of_isOpen h hvalid] at hchanged
  exact hchanged.edited hrooted

theorem edited_remove (hrooted : s.Rooted) (h : s.isOpen store)
    {user url : String} (hvalid : requireUserAndUrl user url = .ok ()) :
    s.Edited store [.remove ⟨user, url⟩] (s.remove store user url).2.1 := by
  have hchanged := s.changed_remove store user url
  rw [remove_eq_ok_of_isOpen h hvalid] at hchanged
  exact hchanged.edited hrooted

/-! ## Opening -/

theorem exists_of_leadsTo {seat : Seat} {table : String}
    (h : s.leadsTo seat table store) :
    ∃ number c, store = .durable number ∧ s.connection? number = some c ∧
      c.seat = seat ∧ sameName c.table table := by
  cases store with
  | volatile number => cases h
  | durable number =>
      obtain ⟨c, hc, htable⟩ := (Option.any_eq_true _ _).mp h
      rw [Bool.and_eq_true, beq_iff_eq] at htable
      exact ⟨number, c, rfl, hc, htable⟩

theorem isOpen_of_leadsTo {seat : Seat} {table : String}
    (h : s.leadsTo seat table store) : s.isOpen store := by
  obtain ⟨number, c, rfl, hc, -⟩ := exists_of_leadsTo h
  rw [Storage.isOpen, hc, Option.isSome_some]

theorem isOpen_openStore {config : StoreConfig} {log : Log}
    (h : s.openStore config = (.ok store, t, log)) : t.isOpen store := by
  unfold openStore at h
  split at h
  · cases h
    rfl
  · split at h
    · cases h
    next hopen =>
        cases h
        obtain ⟨seat, d, -, rfl, rfl⟩ := openDurable_eq_ok hopen
        simp [Storage.isOpen, connection?]

/-- A connection outlasts its store. -/
theorem exists_mem_connections_close {c : Connection}
    (hc : c ∈ s.connections) (closed : Store) :
    ∃ d ∈ (s.close closed).connections,
      d.seat = c.seat ∧ d.table = c.table := by
  cases closed with
  | volatile number => exact ⟨c, hc, rfl, rfl⟩
  | durable number =>
      obtain ⟨i, hi⟩ := List.mem_iff_getElem?.mp hc
      have hmodified : (s.close (.durable number)).connections[i]? =
          some (if number = i then { c with closed := true } else c) := by
        simp only [Storage.close, List.getElem?_modify, hi]
        split <;> rfl
      refine ⟨_, List.mem_of_getElem? hmodified, ?_⟩
      split <;> exact ⟨rfl, rfl⟩

/-- A store lists the rows of the table on which it is open. -/
theorem list_of_leadsTo (hrooted : s.Rooted) {seat : Seat} {table : String}
    (h : s.leadsTo seat table store) (user : String) :
    s.list store user = .ok (Roll.ofRows (s.rows seat table) user) := by
  obtain ⟨number, c, rfl, hc, rfl, htable⟩ := exists_of_leadsTo h
  obtain ⟨t, ht⟩ :=
    Option.isSome_iff_exists.mp (hrooted c (mem_connections hc))
  have hrows : s.rows c.seat table = t.rows := by
    rw [← rows_congr s c.seat htable, Storage.rows, Database.rows, ht]
    rfl
  simp only [Storage.list, hc, tableOf, ht, Option.getD_some, hrows]
  rfl

variable {config : StoreConfig} {parts : List String} {log : Log}

theorem directory_openStore (s : Storage) (config : StoreConfig) :
    (s.openStore config).2.1.directory = s.directory := by
  rcases s.openStore_cases config with heq | heq | ⟨seat, d, -, heq⟩ <;>
    rw [heq] <;> rfl

/-- Where no store is opened, nothing is changed. -/
theorem openStore_of_not_isOk {s : Storage} {config : StoreConfig}
    (h : (s.openStore config).1.isOk = false) :
    (s.openStore config).2.1 = s := by
  unfold openStore at h ⊢
  split at h
  next => cases h
  next =>
      split at h
      next => rfl
      next => cases h

theorem leadsTo_openStore (hbackend : config.backend = .durable)
    (hpath : Location.ofPath config.database = .ok (.file parts))
    (h : s.openStore config = (.ok store, t, log)) :
    t.leadsTo (.file parts) config.table store := by
  simp only [openStore, hbackend] at h
  split at h
  · cases h
  next hopen =>
      cases h
      obtain ⟨d, -, rfl, rfl⟩ := openDurable_eq_ok_of_file hpath hopen
      simp [leadsTo, connection?, sameName]

/-- A file that has a text is read as before once a store has been opened. -/
theorem readFile_openStore {octet : UInt8} {octets : List UInt8}
    (hfile : s.readFile path = .ok (octet :: octets)) (config : StoreConfig) :
    (s.openStore config).2.1.readFile path = s.readFile path := by
  unfold openStore
  split
  next => rfl
  next =>
      split
      next => rfl
      next store t hopen =>
          obtain ⟨-, location, seat, d, -, hseat, -, -, rfl⟩ :=
            openDurable_eq_ok_iff.mp hopen
          have hother : Seat.file (Location.resolve path) ≠ seat := by
            rintro rfl
            obtain ⟨fault, hfault⟩ := checkFile_eq_error_of_readFile hfile
            cases location with
            | memory => cases hseat
            | file parts =>
                obtain ⟨hcheck, hparts⟩ := seatFor_file_eq_ok_iff.mp hseat
                rw [Seat.file.inj hparts, hcheck] at hfault
                cases hfault
          have hsame := s.isSome_lookup_putDatabase seat
            (.file (Location.resolve path)) d
          rw [beq_false_of_ne hother, Bool.false_or] at hsame
          simp only [readFile, isDatabaseFile, hsame]
          rfl

theorem checkFile_congr (h : t.directory = s.directory) :
    t.checkFile = s.checkFile := by
  funext parts
  have hisDirectory : t.isDirectory = s.isDirectory := by
    funext parts
    rw [isDirectory, isDirectory, h]
  rw [checkFile, checkFile, hisDirectory, h]

/-- A table that is there is found again under a name that was good once. -/
theorem require_again {d required other : Database} {table : String}
    (h : d.require table = .ok required)
    (hfound : (other.find? table).isSome) :
    other.require table = .ok other := by
  unfold Database.require at h ⊢
  split_ifs at h ⊢ <;> rfl

/-- A store can be opened again in a storage with the same files in which it has
been connected before, and makes no new database there. -/
theorem openStore_again (hbackend : config.backend = .durable)
    (hpath : Location.ofPath config.database = .ok (.file parts))
    (h : s.openStore config = (.ok store, t, log))
    (hdirectory : u.directory = s.directory) (hrooted : u.Rooted)
    {c : Connection} (hc : c ∈ u.connections) (hseat : c.seat = .file parts)
    (htable : sameName c.table config.table) :
    ∃ again v, u.openStore config = (.ok again, v, log) ∧ u.Alike v := by
  simp only [openStore, hbackend] at h ⊢
  split at h
  · cases h
  next hopen =>
      obtain ⟨hname, location, seat, d, hlocation, hseat', hrequire, -, -⟩ :=
        openDurable_eq_ok_iff.mp hopen
      obtain rfl : .file parts = location :=
        Except.ok.inj (hpath.symm.trans hlocation)
      obtain ⟨hcheck, rfl⟩ := seatFor_file_eq_ok_iff.mp hseat'
      rw [← checkFile_congr hdirectory] at hcheck
      have hfound := hrooted c hc
      rw [hseat, Database.find?_congr _ htable] at hfound
      have hthere := hrooted.isSome_lookup hc
      rw [hseat] at hthere
      have hagain := openDurable_eq_ok_iff.mpr ⟨hname, _, _, _, hpath,
        seatFor_file_eq_ok_iff.mpr ⟨hcheck, rfl⟩,
        require_again hrequire hfound, rfl, rfl⟩
      cases h
      have halike := alike_putDatabase hthere (u.database (.file parts))
      rw [hagain]
      exact ⟨_, _, rfl, halike.directory, halike.databases⟩

end Storage

end Newsstand
