import Newsstand.Proofs.Fetch.Moves
import Newsstand.Proofs.Fetch.Progress
import Newsstand.Proofs.Fetch.Results

/-!
# Getting in line

A fetch for which there is room is not started in the same moment.  It is called
up and gets in line behind what is due already: other fetches that have been
called up, and waiting ones whose worker has come.  If what is due is done in the
order in which it became due, a fetch is started when all that was due before it
has been done.  Nothing else is said about the order: a waiting fetch may take
its worker at any time, and a download may end at any time.

The order matters for how many fetches wait at the same time.  A worker that is
given back goes to a waiting fetch at once, but until that fetch has taken it,
the fetch still counts as waiting.  That moves are in line is not true of all
moves that a sweep can make; it is assumed where it is needed.
-/

namespace Newsstand

namespace Sweep

/-! ## Turns -/

/-- What is due in a sweep: that a fetch is started which has been called up, or
that a fetch takes the worker that has come to its place. -/
inductive Turn where
  | start
  | take (number : ℕ)
  deriving DecidableEq

namespace Turn

def number? : Turn → Option ℕ
  | .start => none
  | .take number => some number

/-- The places at which workers wait to be taken. -/
def numbers (turns : List Turn) : List ℕ :=
  turns.filterMap number?

/-- Each fetch that has been called up will find more workers to spare in its turn
than have come to places behind it.  A worker is to spare if no fetch goes on for
which it is counted, and each fetch that is started before takes one up. -/
def Fits (spare : ℕ) : List Turn → Prop
  | [] => True
  | .take _ :: turns => Fits spare turns
  | .start :: turns => (numbers turns).length < spare ∧ Fits (spare - 1) turns

variable {spare : ℕ} {turns : List Turn}

theorem fits_cons_start :
    Fits spare (.start :: turns) ↔
      (numbers turns).length < spare ∧ Fits (spare - 1) turns := Iff.rfl

theorem numbers_append (turns more : List Turn) :
    numbers (turns ++ more) = numbers turns ++ numbers more :=
  List.filterMap_append

theorem numbers_filter (turns : List Turn) (number : ℕ) :
    numbers (turns.filter (· != .take number)) =
      (numbers turns).filter (· != number) := by
  induction turns with
  | nil => rfl
  | cons turn turns ih =>
      cases turn with
      | start => exact ih
      | take other =>
          by_cases h : other = number
          · subst h
            simpa [numbers, number?] using ih
          · simpa [numbers, number?, h] using ih

theorem Fits.mono (h : Fits spare turns) {more : ℕ} (hle : spare ≤ more) :
    Fits more turns := by
  induction turns generalizing spare more with
  | nil => trivial
  | cons turn turns ih =>
      cases turn with
      | take number => exact ih h hle
      | start =>
          exact ⟨h.1.trans_le hle, ih h.2 (Nat.sub_le_sub_right hle 1)⟩

theorem Fits.filter (h : Fits spare turns) (number : ℕ) :
    Fits spare (turns.filter (· != .take number)) := by
  induction turns generalizing spare with
  | nil => trivial
  | cons turn turns ih =>
      cases turn with
      | take other =>
          rw [List.filter_cons]
          split
          · exact ih h
          · exact ih h
      | start =>
          rw [List.filter_cons_of_pos (by simp), fits_cons_start,
            numbers_filter]
          exact ⟨(List.length_filter_le _ _).trans_lt h.1, ih h.2⟩

/-- One more worker to spare makes good for one that comes to a place. -/
theorem Fits.append_take (h : Fits spare turns) (number : ℕ) :
    Fits (spare + 1) (turns ++ [.take number]) := by
  induction turns generalizing spare with
  | nil => trivial
  | cons turn turns ih =>
      cases turn with
      | take other => exact ih h
      | start =>
          obtain ⟨hlt, hrest⟩ := h
          have hfits := ih hrest
          rw [Nat.sub_add_cancel (Nat.one_le_of_lt hlt)] at hfits
          rw [List.cons_append, fits_cons_start, numbers_append,
            List.length_append]
          exact ⟨Nat.succ_lt_succ hlt, hfits⟩

/-- A fetch may be called up while more workers are to spare than fetches have
been called up. -/
theorem Fits.append_start (h : Fits spare turns)
    (hlt : turns.count .start < spare) : Fits spare (turns ++ [.start]) := by
  induction turns generalizing spare with
  | nil => exact ⟨hlt, trivial⟩
  | cons turn turns ih =>
      cases turn with
      | take other => exact ih h (by simpa using hlt)
      | start =>
          rw [List.count_cons_self] at hlt
          have hfits := ih h.2 (by omega)
          rw [List.cons_append, fits_cons_start, numbers_append,
            List.length_append]
          exact ⟨h.1, hfits⟩

theorem Fits.append_takes (h : Fits spare turns) (number? : Option ℕ) :
    Fits (spare + 1) (turns ++ number?.toList.map .take) := by
  cases number? with
  | none =>
      rw [Option.toList_none, List.map_nil, List.append_nil]
      exact h.mono (Nat.le_succ _)
  | some number => exact h.append_take number

theorem numbers_takes (number? : Option ℕ) :
    numbers (number?.toList.map .take) = number?.toList := by
  cases number? <;> rfl

end Turn

/-! ## Lines -/

/-- A chronicle with what is due, in the order of its coming. -/
structure Line where
  chronicle : Chronicle
  turns : List Turn

namespace Line

/-- The line for a list of URLs before its first move. -/
def ofUrls (f : Fetcher) (urls : List String) : Line :=
  ⟨.ofUrls f urls, []⟩

/-- The number of fetches that have been called up and are not started yet. -/
def called (l : Line) : ℕ :=
  l.turns.count .start

/-- The line after another fetch has been called up. -/
def call (l : Line) : Line :=
  { l with turns := l.turns ++ [.start] }

/-- What is due after the fetch in a room has gone on.  One that waits has taken
its worker, if that has come; one that downloads has given its worker back. -/
def turnsAfter (l : Line) (i : ℕ) : List Turn :=
  match l.chronicle.sweep.rooms[i]? with
  | some (.going job) =>
      match job.phase with
      | .waiting number => l.turns.filter (· != .take number)
      | .downloading _ =>
          l.turns ++ l.chronicle.sweep.fetcher.pool.nextInLine?.toList.map .take
  | _ => l.turns

theorem turnsAfter_of_no_job (l : Line) {i : ℕ}
    (hroom : ∀ job, l.chronicle.sweep.rooms[i]? ≠ some (.going job)) :
    l.turnsAfter i = l.turns := by
  unfold turnsAfter
  split
  next job heq => exact absurd heq (hroom job)
  next => rfl

/-- The line after the fetch in a room has gone on. -/
def advance (l : Line) (i : ℕ) : Line :=
  ⟨l.chronicle.move (.advance i), l.turnsAfter i⟩

/-- A line at another reading of the clock. -/
def clocked (l : Line) (now : ℕ) : Line :=
  { l with chronicle := l.chronicle.clocked now }

/-- A line makes some moves and leads to another one.  A fetch is called up when
there is room for it besides those that have been called up, and it is started
in its turn. -/
inductive Makes (l : Line) : List (ℕ × Move) → Line → Prop where
  | none : Makes l [] l
  | call {ms : List (ℕ × Move)} {k : Line} (h : Makes l ms k)
      (hpending : k.called < k.chronicle.sweep.pending.length)
      (hroom : k.chronicle.sweep.rooms.length + k.called <
        k.chronicle.sweep.fetcher.pool.size) :
      Makes l ms k.call
  | start {ms : List (ℕ × Move)} {k : Line} {turns : List Turn} (now : ℕ)
      (h : Makes l ms k) (hturn : k.turns = .start :: turns) :
      Makes l (ms ++ [(now, .start)])
        ⟨(k.chronicle.clocked now).move .start, turns⟩
  | advance {ms : List (ℕ × Move)} {k : Line} (now i : ℕ) (h : Makes l ms k) :
      Makes l (ms ++ [(now, .advance i)]) ((k.clocked now).advance i)

variable {l k : Line} {ms : List (ℕ × Move)} {held : ℕ}

/-- A line makes the moves of its sweep. -/
theorem Makes.chronicle_eq (h : l.Makes ms k) :
    k.chronicle = l.chronicle.timed ms := by
  induction h with
  | none => rfl
  | call h hpending hroom ih => exact ih
  | start now h hturn ih =>
      rw [Chronicle.timed_append, ← ih]
      rfl
  | advance now i h ih =>
      rw [Chronicle.timed_append, ← ih]
      rfl

/-- Pool, rooms and line agree about who has a worker, and there are workers to
spare for the fetches that have been called up, if all workers were there that
are held from outside. -/
structure Sound (l : Line) (held : ℕ) : Prop where
  staffed : l.chronicle.sweep.Staffed held
  inTurn : l.chronicle.sweep.fetcher.pool.InTurn
  orderly : l.chronicle.sweep.Orderly
  numbers : Turn.numbers l.turns = l.chronicle.sweep.fetcher.pool.assignedNumbers
  fits : Turn.Fits (l.chronicle.sweep.fetcher.pool.size -
    (jobsIn l.chronicle.sweep.rooms).card) l.turns

theorem Sound.call (h : l.Sound held)
    (hroom : l.chronicle.sweep.rooms.length + l.called <
      l.chronicle.sweep.fetcher.pool.size) : l.call.Sound held := by
  have hjobs := card_jobsIn_le l.chronicle.sweep.rooms
  have hcalled : l.turns.count .start = l.called := rfl
  refine ⟨h.staffed, h.inTurn, h.orderly, ?_, h.fits.append_start (by omega)⟩
  rw [Line.call, Turn.numbers_append, h.numbers]
  exact List.append_nil _

theorem Sound.start {turns : List Turn} (h : l.Sound held)
    (hturn : l.turns = .start :: turns) :
    Sound ⟨l.chronicle.move .start, turns⟩ held := by
  have hnumbers := h.numbers
  have hfits := h.fits
  rw [hturn, Turn.fits_cons_start] at hfits
  rw [hturn] at hnumbers
  have hjobs := l.chronicle.sweep.card_jobsIn_startNext_le
  have hsize := l.chronicle.sweep.pool_size_move .start
  refine ⟨h.staffed.move .start, inTurn_move h.inTurn .start,
    h.orderly.move .start, ?_, ?_⟩
  · exact hnumbers.trans l.chronicle.sweep.assignedNumbers_startNext.symm
  · apply hfits.2.mono
    simp only [Chronicle.move, Sweep.move] at hsize ⊢
    omega

theorem Sound.advance (h : l.Sound held) (i : ℕ) :
    (l.advance i).Sound held := by
  have hnumbers := h.numbers
  have hfits := h.fits
  have hsize := l.chronicle.sweep.pool_size_move (.advance i)
  simp only [Sweep.move] at hsize
  suffices hturns : Turn.numbers (l.turnsAfter i) =
      (l.chronicle.sweep.advance i).fetcher.pool.assignedNumbers ∧
      Turn.Fits (l.chronicle.sweep.fetcher.pool.size -
        (jobsIn (l.chronicle.sweep.advance i).rooms).card) (l.turnsAfter i) from
    ⟨h.staffed.move (.advance i), inTurn_move h.inTurn (.advance i),
      h.orderly.move (.advance i), hturns.1, hsize ▸ hturns.2⟩
  rcases l.chronicle.sweep.room_cases i with
    hroom | ⟨job, number, hroom, hphase⟩ | ⟨job, download, hroom, hphase⟩
  · obtain ⟨hsame, -⟩ := advance_of_no_job hroom
    rw [hsame, l.turnsAfter_of_no_job hroom]
    exact ⟨hnumbers, hfits⟩
  · obtain ⟨hpool, hcard, -⟩ := advance_of_waiting hroom hphase
    simp only [turnsAfter, hroom, hphase]
    rw [hpool, hcard, Turn.numbers_filter, hnumbers,
      WorkerPool.assignedNumbers_poll]
    exact ⟨rfl, hfits.filter number⟩
  · obtain ⟨hpool, hcard, -⟩ := advance_of_downloading hroom hphase
    replace hcard := congrArg Multiset.card hcard
    rw [Multiset.card_cons] at hcard
    have hjobs := card_jobsIn_le l.chronicle.sweep.rooms
    have hrooms := h.orderly.room
    simp only [turnsAfter, hroom, hphase]
    rw [hpool, Turn.numbers_append, hnumbers, Turn.numbers_takes,
      h.inTurn.assignedNumbers_release]
    exact ⟨rfl, (hfits.append_takes _).mono (by omega)⟩

theorem Sound.clocked (h : l.Sound held) (now : ℕ) :
    (l.clocked now).Sound held :=
  ⟨h.staffed, h.inTurn, h.orderly.clocked now, h.numbers, h.fits⟩

theorem Sound.makes (h : l.Sound held) (hmakes : l.Makes ms k) :
    k.Sound held := by
  induction hmakes with
  | none => exact h
  | call _ _ hroom ih => exact ih.call hroom
  | start now _ hturn ih => exact (ih.clocked now).start hturn
  | advance now i _ ih => exact (ih.clocked now).advance i

/-- A fetch whose turn it is finds a free worker, or fewer waiting ones than
workers are held from outside. -/
theorem Sound.waiting_lt {turns : List Turn} (h : l.Sound held)
    (hturns : l.turns = .start :: turns)
    (hfree : l.chronicle.sweep.fetcher.pool.free = 0) :
    l.chronicle.sweep.fetcher.pool.waiting < held := by
  have hworkers := h.staffed.workers
  have hwaiting := h.staffed.waiting_eq
  have hjobs := Fetcher.card_eq (jobsIn l.chronicle.sweep.rooms)
  have hnumbers := congrArg List.length h.numbers
  rw [WorkerPool.length_assignedNumbers, hturns] at hnumbers
  have hfits := h.fits
  rw [hturns, Turn.fits_cons_start] at hfits
  have hspare : (Turn.numbers turns).length <
      l.chronicle.sweep.fetcher.pool.size -
        (jobsIn l.chronicle.sweep.rooms).card := hfits.1
  change (Turn.numbers turns).length = _ at hnumbers
  omega

/-! ## The moves that a sweep chooses itself -/

/-- When no fetch that waits can go on and none has been called up, nothing is
due. -/
theorem Sound.turns_eq_nil (h : l.Sound held) (hcalled : l.called = 0)
    (halone : ∀ room ∈ l.chronicle.sweep.rooms,
      goesOnAlone l.chronicle.sweep.fetcher room = false) : l.turns = [] := by
  rw [List.eq_nil_iff_forall_not_mem]
  intro turn hturn
  cases turn with
  | start => exact List.count_eq_zero.mp hcalled hturn
  | take number =>
      have hnumber : number ∈ Turn.numbers l.turns :=
        List.mem_filterMap.mpr ⟨_, hturn, rfl⟩
      rw [h.numbers] at hnumber
      obtain ⟨t, ht, rfl⟩ := List.mem_map.mp hnumber
      obtain ⟨hqueued, hassigned⟩ := List.mem_filter.mp ht
      obtain ⟨room, hroom, hgoes⟩ :=
        h.staffed.exists_goesOnAlone hqueued hassigned
      rw [halone room hroom] at hgoes
      cases hgoes

theorem called_advance (l : Line) (i : ℕ) : (l.advance i).called = l.called := by
  simp only [advance, called, turnsAfter]
  split
  · split
    · simp [List.count_filter]
    · rw [List.count_append]
      cases l.chronicle.sweep.fetcher.pool.nextInLine? <;> simp
  · rfl

/-- A move that a sweep chooses itself is made by a line. -/
theorem Sound.exists_makes_of_next? (h : l.Sound held) (hmakes : l.Makes ms k)
    (hcalled : k.called = 0) {m : Move}
    (hnext : k.chronicle.sweep.next? = some m) :
    ∃ more j, l.Makes (ms ++ more) j ∧ j.called = 0 ∧
      j.chronicle.sweep = k.chronicle.sweep.move m := by
  let now := k.chronicle.sweep.fetcher.now
  have hadvance (i : ℕ) :
      ∃ more j, l.Makes (ms ++ more) j ∧ j.called = 0 ∧
        j.chronicle.sweep = k.chronicle.sweep.move (.advance i) :=
    ⟨_, _, hmakes.advance now i, (called_advance _ i).trans hcalled, rfl⟩
  unfold next? at hnext
  split at hnext
  next i hfind =>
      obtain rfl := Option.some.inj hnext
      exact hadvance i
  next halone =>
      split at hnext
      next hstart =>
          obtain rfl := Option.some.inj hnext
          rw [Bool.and_eq_true, Bool.not_eq_true'] at hstart
          obtain ⟨hpending, hroom⟩ := hstart
          have hturns : k.turns = [] := by
            refine (h.makes hmakes).turns_eq_nil hcalled fun room hroom => ?_
            simpa using List.findIdx?_eq_none_iff.mp halone room hroom
          have hsome : 0 < k.chronicle.sweep.pending.length :=
            List.length_pos_of_ne_nil (by simpa using hpending)
          have hlt : k.chronicle.sweep.rooms.length <
              k.chronicle.sweep.fetcher.pool.size := by
            simpa [hasRoom] using hroom
          have hcall := hmakes.call (by omega) (by omega)
          have hturn : k.call.turns = [.start] := by
            rw [Line.call, hturns]
            rfl
          exact ⟨_, _, hcall.start now hturn, rfl, rfl⟩
      next =>
          obtain ⟨i, -, rfl⟩ := Option.map_eq_some_iff.mp hnext
          exact hadvance i

/-- What a sweep comes to by itself, a line can come to. -/
theorem Sound.exists_makes_run (h : l.Sound held) (hmakes : l.Makes ms k)
    (hcalled : k.called = 0) (fuel : ℕ) :
    ∃ more j, l.Makes (ms ++ more) j ∧
      j.chronicle.sweep = k.chronicle.sweep.run fuel := by
  induction fuel generalizing k ms with
  | zero => exact ⟨[], k, by rwa [List.append_nil], by rw [run]⟩
  | succ fuel ih =>
      cases hnext : k.chronicle.sweep.next? with
      | none =>
          exact ⟨[], k, by rwa [List.append_nil], by rw [run.eq_def, hnext]⟩
      | some m =>
          obtain ⟨first, j, hfirst, hnone, hj⟩ :=
            h.exists_makes_of_next? hmakes hcalled hnext
          obtain ⟨rest, i, hrest, hi⟩ := ih hfirst hnone
          refine ⟨first ++ rest, i, by rwa [← List.append_assoc], ?_⟩
          rw [hi, hj, run.eq_def _ k.chronicle.sweep, hnext]

end Line

/-- Moves for a list of URLs are in line if they are made in such a way that
each fetch is called up when there is room for it and started in its turn, after
all that was due when it was called up.

This is an assumption on what drives a sweep.  It holds where the fetches of a
sweep are polled in the order in which they were called up or woken, a waiting
fetch is woken as a worker comes to its place, and no fetch is put off when it
is polled.  It fails where a task that has gone on for long is made to pause: a
fetch whose worker has come is then put off, and one behind it is started. -/
def InLine (f : Fetcher) (urls : List String) (ms : List (ℕ × Move)) : Prop :=
  ∃ l, (Line.ofUrls f urls).Makes ms l

end Sweep

end Newsstand
