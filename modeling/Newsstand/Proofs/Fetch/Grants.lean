import Newsstand.Proofs.Fetch.Line

/-!
# Who gets a worker

A fetch that is started has fewer others waiting before it than there are
workers, so that the pool turns none away that lets as many wait as it has
workers.  If the moves are in line, fewer wait than workers are held from
outside, and as many places are enough.  If no worker is held from outside, each
fetch finds a free worker at once.
-/

namespace Newsstand

/-- In a download the pool has no say any more. -/
theorem Network.download_ne_rejected (n : Network) (config : FetchConfig)
    (url group : String) :
    (n.download config url).result ≠ .error (.rejected group) := by
  intro h
  have hattempted := Network.wasAttempted_of_download h
  cases hattempted

/-- A fetch that finds a free worker does not wait. -/
theorem Fetcher.Started.place?_eq_none {f g : Fetcher} {url : String} {job : Job}
    (h : f.Started url (.job job) g) (hfree : 0 < f.pool.free) :
    job.place? = none := by
  cases h with
  | waiting hask hnone hroom => omega
  | sent hask hfree => rfl

/-- The pool turns a fetch away only if no worker is free and no place. -/
theorem Fetcher.Started.full {f g : Fetcher} {url group : String}
    (h : f.Started url (.over (.rejected group)) g) :
    f.pool.free = 0 ∧ f.pool.queueDepth ≤ f.pool.waiting := by
  cases h with
  | rejected hask hfree hfull => exact ⟨hfree, hfull⟩

namespace Sweep

namespace Chronicle

/-- The pool has turned no fetch away. -/
def TurnsNoneAway (c : Chronicle) : Prop :=
  ∀ ending ∈ c.ended, ∀ group, ending.1.2 ≠ .error (.rejected group)

variable {config : FetchConfig} {c : Chronicle}

theorem genuine_ofUrls (f : Fetcher) (urls : List String) :
    (ofUrls f urls).Genuine f.config fun _ => True :=
  ⟨rfl, trivial, fun _ hjob => absurd hjob List.not_mem_nil,
    List.forall_mem_nil _⟩

theorem turnsNoneAway_ofUrls (f : Fetcher) (urls : List String) :
    (ofUrls f urls).TurnsNoneAway :=
  List.forall_mem_nil _

theorem Genuine.move_any (h : c.Genuine config fun _ => True) (m : Move) :
    (c.move m).Genuine config fun _ => True := by
  cases m with
  | start => exact h.start trivial
  | advance i => exact h.advance i trivial

theorem TurnsNoneAway.start (h : c.TurnsNoneAway)
    (hwait : c.sweep.hasRoom → c.sweep.fetcher.pool.free = 0 →
      c.sweep.fetcher.pool.waiting < c.sweep.fetcher.pool.queueDepth) :
    (c.move .start).TurnsNoneAway := by
  intro ending hending group
  rcases List.mem_append.mp hending with hold | hnew
  · exact h ending hold group
  · rcases c.sweep.startNext_cases with ⟨-, hnone⟩ |
      ⟨url, beginning, hroom, hstarted, -, hends⟩
    · rw [hnone] at hnew
      cases hnew
    · obtain ⟨fault, rfl, hfault⟩ := hends ending hnew
      rw [hfault]
      intro heq
      obtain rfl := Except.error.inj heq
      obtain ⟨hfree, hfull⟩ := hstarted.full
      exact absurd hfull (Nat.not_le.mpr (hwait hroom hfree))

theorem TurnsNoneAway.advance (h : c.TurnsNoneAway)
    (hgenuine : c.Genuine config fun _ => True) (i : ℕ) :
    (c.move (.advance i)).TurnsNoneAway := by
  intro ending hending group
  rcases List.mem_append.mp hending with hold | hnew
  · exact h ending hold group
  · rcases c.sweep.room_cases i with
      hroom | ⟨job, number, hroom, hphase⟩ | ⟨job, download, hroom, hphase⟩
    · rw [(advance_of_no_job hroom).2] at hnew
      cases hnew
    · rw [(advance_of_waiting hroom hphase).2.2] at hnew
      cases hnew
    · rw [(advance_of_downloading hroom hphase).2.2] at hnew
      obtain rfl := List.mem_singleton.mp hnew
      obtain ⟨n, -, rfl⟩ :=
        hgenuine.going job (List.mem_of_getElem? hroom) download hphase
      exact n.download_ne_rejected _ _ _

/-! ## Whatever order the moves have -/

/-- A chronicle in which pool and rooms agree, and of whose fetches the pool has
turned none away. -/
structure Admitting (config : FetchConfig) (held : ℕ) (c : Chronicle) :
    Prop where
  staffed : c.sweep.Staffed held
  orderly : c.sweep.Orderly
  genuine : c.Genuine config fun _ => True
  turnsNoneAway : c.TurnsNoneAway

variable {held : ℕ}

theorem Admitting.start (h : c.Admitting config held)
    (hwait : c.sweep.hasRoom → c.sweep.fetcher.pool.free = 0 →
      c.sweep.fetcher.pool.waiting < c.sweep.fetcher.pool.queueDepth) :
    (c.move .start).Admitting config held :=
  ⟨h.staffed.move .start, h.orderly.move .start, h.genuine.move_any .start,
    h.turnsNoneAway.start hwait⟩

theorem Admitting.advance (h : c.Admitting config held) (i : ℕ) :
    (c.move (.advance i)).Admitting config held :=
  ⟨h.staffed.move (.advance i), h.orderly.move (.advance i),
    h.genuine.move_any (.advance i), h.turnsNoneAway.advance h.genuine i⟩

theorem Admitting.clocked (h : c.Admitting config held) (now : ℕ) :
    (c.clocked now).Admitting config held :=
  ⟨h.staffed, h.orderly.clocked now, h.genuine.clocked now, h.turnsNoneAway⟩

/-- Where there is room for a fetch, fewer others wait than there are workers. -/
theorem Admitting.waiting_lt (h : c.Admitting config held)
    (hroom : c.sweep.hasRoom) :
    c.sweep.fetcher.pool.waiting < c.sweep.fetcher.pool.size := by
  have hwaiting := h.staffed.waiting_eq
  have hjobs := Fetcher.card_eq (jobsIn c.sweep.rooms)
  have hrooms := card_jobsIn_le c.sweep.rooms
  have hlt : c.sweep.rooms.length < c.sweep.fetcher.pool.size := by
    simpa [hasRoom] using hroom
  omega

/-- A pool on which as many may wait as there are workers turns no fetch away. -/
theorem Admitting.timed (h : c.Admitting config held)
    (hdepth : c.sweep.fetcher.pool.size ≤ c.sweep.fetcher.pool.queueDepth)
    (ms : List (ℕ × Move)) : (c.timed ms).Admitting config held := by
  suffices hboth : (c.timed ms).Admitting config held ∧
      (c.timed ms).sweep.fetcher.pool.size ≤
        (c.timed ms).sweep.fetcher.pool.queueDepth from hboth.1
  apply timed_induction (P := fun c => c.Admitting config held ∧
    c.sweep.fetcher.pool.size ≤ c.sweep.fetcher.pool.queueDepth)
  · rintro c now ⟨h, hdepth⟩
    exact ⟨h.clocked now, hdepth⟩
  · rintro c m ⟨h, hdepth⟩
    have hterms := c.sweep.pool_terms_move m
    obtain ⟨hsize, hqueue⟩ := Prod.mk.inj hterms
    refine ⟨?_, hsize.trans_le (hdepth.trans_eq hqueue.symm)⟩
    cases m with
    | start =>
        exact h.start fun hroom _ => (h.waiting_lt hroom).trans_le hdepth
    | advance i => exact h.advance i
  · exact ⟨h, hdepth⟩

/-! ## While no worker is held from outside -/

/-- A chronicle in which no fetch has been hindered, while no worker is held from
outside. -/
structure Unhindered (config : FetchConfig) (c : Chronicle) : Prop where
  admitting : c.Admitting config 0
  noneWaits : ∀ job ∈ jobsIn c.sweep.rooms, job.place? = none

/-- Where there is room for a fetch, there is a worker for it. -/
theorem Unhindered.free_pos (h : c.Unhindered config)
    (hroom : c.sweep.hasRoom) : 0 < c.sweep.fetcher.pool.free := by
  have hqueue : c.sweep.fetcher.pool.queue = [] := by
    rw [List.eq_nil_iff_forall_not_mem]
    intro t ht
    obtain ⟨job, hjob, hplace⟩ := h.admitting.staffed.exists_job ht
    rw [h.noneWaits job hjob] at hplace
    cases hplace
  have hworkers := h.admitting.staffed.workers
  rw [hqueue, List.countP_nil] at hworkers
  have hbusy : Fetcher.busy (jobsIn c.sweep.rooms) ≤
      (jobsIn c.sweep.rooms).card := Multiset.countP_le_card _ _
  have hjobs := card_jobsIn_le c.sweep.rooms
  have hlt : c.sweep.rooms.length < c.sweep.fetcher.pool.size := by
    simpa [hasRoom] using hroom
  omega

theorem Unhindered.start (h : c.Unhindered config) :
    (c.move .start).Unhindered config := by
  refine ⟨h.admitting.start fun hroom hfree => ?_, ?_⟩
  · exact absurd hfree (h.free_pos hroom).ne'
  · intro job hjob
    change job ∈ jobsIn c.sweep.startNext.rooms at hjob
    rcases c.sweep.startNext_cases with ⟨hsame, -⟩ |
      ⟨url, beginning, hroom, hstarted, hjobs, -⟩
    · rw [hsame] at hjob
      exact h.noneWaits job hjob
    · rw [hjobs] at hjob
      rcases Multiset.mem_add.mp hjob with hnew | hold
      · rcases beginning with fault | begun
        · cases hnew
        · obtain rfl := Multiset.mem_singleton.mp hnew
          exact hstarted.place?_eq_none (h.free_pos hroom)
      · exact h.noneWaits job hold

theorem Unhindered.advance (h : c.Unhindered config) (i : ℕ) :
    (c.move (.advance i)).Unhindered config := by
  refine ⟨h.admitting.advance i, ?_⟩
  intro other hother
  change other ∈ jobsIn (c.sweep.advance i).rooms at hother
  rcases c.sweep.room_cases i with
    hroom | ⟨job, number, hroom, hphase⟩ | ⟨job, download, hroom, hphase⟩
  · obtain ⟨hsame, -⟩ := advance_of_no_job hroom
    rw [hsame] at hother
    exact h.noneWaits other hother
  · have hplace := h.noneWaits job (mem_jobsIn_of_room hroom)
    simp [Job.place?, hphase] at hplace
  · obtain ⟨-, hjobs, -⟩ := advance_of_downloading hroom hphase
    apply h.noneWaits
    rw [hjobs]
    exact Multiset.mem_cons_of_mem hother

theorem Unhindered.timed (h : c.Unhindered config) (ms : List (ℕ × Move)) :
    (c.timed ms).Unhindered config := by
  refine timed_induction ?_ ?_ h ms
  · intro c now h
    exact ⟨h.admitting.clocked now, h.noneWaits⟩
  · intro c m h
    cases m with
    | start => exact h.start
    | advance i => exact h.advance i

end Chronicle

/-! ## While the moves are in line -/

namespace Line

/-- A line from which no fetch has been turned away, while as many may wait as
workers are held from outside. -/
structure Granting (config : FetchConfig) (held : ℕ) (l : Line) : Prop where
  sound : l.Sound held
  held_le : held ≤ l.chronicle.sweep.fetcher.pool.queueDepth
  admitting : l.chronicle.Admitting config held

variable {config : FetchConfig} {l k : Line} {held : ℕ} {ms : List (ℕ × Move)}

theorem Granting.clocked (h : l.Granting config held) (now : ℕ) :
    (l.clocked now).Granting config held :=
  ⟨h.sound.clocked now, h.held_le, h.admitting.clocked now⟩

/-- A move changes nothing about how many may wait. -/
theorem Granting.held_le_move (h : l.Granting config held) (m : Move) :
    held ≤ (l.chronicle.sweep.move m).fetcher.pool.queueDepth := by
  have hterms := congrArg Prod.snd (l.chronicle.sweep.pool_terms_move m)
  exact h.held_le.trans_eq hterms.symm

theorem Granting.start {turns : List Turn} (h : l.Granting config held)
    (hturn : l.turns = .start :: turns) :
    Granting config held ⟨l.chronicle.move .start, turns⟩ := by
  refine ⟨h.sound.start hturn, h.held_le_move .start,
    h.admitting.start fun _ hfree => ?_⟩
  exact (h.sound.waiting_lt hturn hfree).trans_le h.held_le

theorem Granting.advance (h : l.Granting config held) (i : ℕ) :
    (l.advance i).Granting config held :=
  ⟨h.sound.advance i, h.held_le_move (.advance i), h.admitting.advance i⟩

theorem Granting.makes (h : l.Granting config held) (hmakes : l.Makes ms k) :
    k.Granting config held := by
  induction hmakes with
  | none => exact h
  | call _ _ hroom ih =>
      exact ⟨ih.sound.call hroom, ih.held_le, ih.admitting⟩
  | start now _ hturn ih => exact (ih.clocked now).start hturn
  | advance now i _ ih => exact (ih.clocked now).advance i

end Line

end Sweep

end Newsstand
