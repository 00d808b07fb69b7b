import Newsstand.Proofs.Fetch.Moves

/-!
# One worker

With one worker, a sweep has room for one fetch at a time.  While nobody else
wants the worker, each fetch finds it free and gives it back before the next one
is started, so the sweep does what the fetches do one by one.  The breaker is
asked and told at the same readings of the clock, and in the same order.
-/

namespace Newsstand

/-! ## Fetches one by one -/

section OneByOne

variable {κ : Type} (url : κ → String)
  (fetch : Fetcher → κ → Option String × Fetcher × Log)

/-- One fetch after the other, with the documents and what reading them reports.
There is nothing if one of the fetches has to wait. -/
def Fetcher.oneByOne (f : Fetcher) :
    List κ → Option (List (String × String)) × Fetcher × Log
  | [] => (some [], f, [])
  | call :: calls =>
      match fetch f call with
      | (none, f, log) => (none, f, log)
      | (some body, f, log) =>
          let (bodies?, f, restLog) := f.oneByOne calls
          (bodies?.map ((url call, body) :: ·), f,
            log ++ (Feed.read (url call) body).2 ++ restLog)

variable {url fetch}

theorem Fetcher.oneByOne_concat {f g h : Fetcher} {calls : List κ}
    {bodies : List (String × String)} {log fetchLog : Log} {call : κ}
    {body : String}
    (hcalls : f.oneByOne url fetch calls = (some bodies, g, log))
    (hcall : fetch g call = (some body, h, fetchLog)) :
    f.oneByOne url fetch (calls ++ [call]) =
      (some (bodies ++ [(url call, body)]), h,
        log ++ (fetchLog ++ (Feed.read (url call) body).2)) := by
  induction calls generalizing f bodies log with
  | nil =>
      cases hcalls
      simp [oneByOne, hcall]
  | cons first calls ih =>
      simp only [List.cons_append, oneByOne] at hcalls ⊢
      rcases hfirst : fetch f first with ⟨_ | firstBody, f', firstLog⟩
      · rw [hfirst] at hcalls
        cases hcalls
      · rw [hfirst] at hcalls
        rcases hrest : f'.oneByOne url fetch calls with
          ⟨_ | rest, g', restLog⟩
        · simp only [hrest] at hcalls
          cases hcalls
        · simp only [hrest] at hcalls
          cases hcalls
          simp [ih hrest]

end OneByOne

namespace Fetcher

theorem now_fetch (f : Fetcher) (url : String) :
    (f.fetch url).2.1.now = f.now := by
  simp only [fetch, tryFetch]
  rcases hstart : f.start url with ⟨fault | job, g, log⟩
  · exact (started_of_eq hstart).now
  · cases hphase : job.phase with
    | waiting number =>
        simp only [hphase]
        exact (started_of_eq hstart).now
    | downloading download =>
        simp only [hphase]
        exact (started_of_eq hstart).now

/-- While no time passes, calls are fetches. -/
theorem oneByOne_fetchAt_now (f : Fetcher) (urls : List String) :
    f.oneByOne Call.url fetchAt (urls.map fun url => ⟨url, f.now, f.now⟩) =
        f.oneByOne id fetch urls ∧
      (f.oneByOne id fetch urls).2.1.now = f.now := by
  induction urls generalizing f with
  | nil => exact ⟨rfl, rfl⟩
  | cons url urls ih =>
      have hnow := f.now_fetch url
      simp only [List.map_cons, oneByOne, fetchAt_now]
      rcases hfetch : f.fetch url with ⟨_ | body, g, log⟩
      · rw [hfetch] at hnow
        exact ⟨rfl, hnow⟩
      · rw [hfetch] at hnow
        obtain ⟨hsame, hrest⟩ := ih g
        rw [hnow] at hsame hrest
        simp only [hsame, id_eq]
        exact ⟨trivial, hrest⟩

end Fetcher

/-! ## Sweeps with one worker -/

/-- The one worker of a pool is free, and nobody waits. -/
structure WorkerPool.OneFree (p : WorkerPool) : Prop where
  size : p.size = 1
  free : p.free = 1
  queue : p.queue = []

/-- A worker that is taken and given back is free again. -/
theorem WorkerPool.OneFree.takeFree_release {p : WorkerPool} (h : p.OneFree) :
    p.takeFree.release = p := by
  have hqueue : p.takeFree.queue = [] := h.queue
  have hfree := h.free
  simp only [release, hqueue, assignFirst]
  cases p
  simp_all [takeFree]

/-- A fetch that finds the worker free has a permit, and downloads. -/
theorem Fetcher.Started.job_of_oneFree {f g : Fetcher} {url : String} {job : Job}
    (h : f.Started url (.job job) g) (hpool : f.pool.OneFree) :
    g.pool = f.pool.takeFree ∧ ∃ download, job.phase = .downloading download := by
  cases h with
  | waiting hask hfree hroom =>
      have hone := hpool.free
      omega
  | sent hask hfree => exact ⟨rfl, _, rfl⟩

/-- A fetch that does not begin leaves the worker free. -/
theorem Fetcher.Started.pool_of_over {f g : Fetcher} {url : String}
    {fault : FetchFault} (h : f.Started url (.over fault) g) :
    g.pool = f.pool := by
  cases h <;> rfl

namespace Sweep

/-- What a sweep has come to between two fetches is what some calls come to one
by one. -/
structure Between (f : Fetcher) (calls : List Call) (s : Sweep) : Prop where
  rooms : s.rooms = []
  pool : s.fetcher.pool = f.pool
  fetched : ∃ g, f.oneByOne Call.url Fetcher.fetchAt calls =
    (some s.bodies, g, s.log) ∧ s.fetcher = g.clocked s.fetcher.now

/-- While a fetch goes on, all fetches before it have come to what some calls
come to one by one. -/
structure Within (f : Fetcher) (calls : List Call) (job : Job) (asked : ℕ)
    (s : Sweep) : Prop where
  rooms : s.rooms = [.going job]
  pool : s.fetcher.pool = f.pool.takeFree
  begun : ∃ download g h log startLog, job.phase = .downloading download ∧
    f.oneByOne Call.url Fetcher.fetchAt calls = (some s.bodies, g, log) ∧
    (g.clocked asked).start job.url = (.job job, h, startLog) ∧
    s.fetcher = h.clocked s.fetcher.now ∧ s.log = log ++ startLog

variable {f : Fetcher} {calls : List Call} {job : Job} {asked : ℕ} {s : Sweep}

theorem between_ofUrls (f : Fetcher) (urls : List String) :
    (ofUrls f urls).Between f [] :=
  ⟨rfl, rfl, f, rfl, rfl⟩

theorem Between.clocked (h : s.Between f calls) (now : ℕ) :
    (s.clocked now).Between f calls := by
  obtain ⟨g, hcalls, hg⟩ := h.fetched
  refine ⟨h.rooms, h.pool, g, hcalls, ?_⟩
  simp only [Sweep.clocked]
  rw [hg]
  rfl

theorem Within.clocked (h : s.Within f calls job asked) (now : ℕ) :
    (s.clocked now).Within f calls job asked := by
  obtain ⟨download, g, k, log, startLog, hphase, hcalls, hstart, hk, hlog⟩ :=
    h.begun
  refine ⟨h.rooms, h.pool, download, g, k, log, startLog, hphase, hcalls,
    hstart, ?_, hlog⟩
  simp only [Sweep.clocked]
  rw [hk]
  rfl

/-- A document that waits alone is handed out. -/
theorem handOut_of_done {url body : String} (h : s.rooms = [.done url body]) :
    s.handOut =
      { s with rooms := [], bodies := s.bodies ++ [(url, body)] } := by
  simp [handOut, h]

/-- Between two fetches there is room for the next one.  It is over at once, or
it goes on with the worker. -/
theorem Between.start (h : s.Between f calls) (hpool : f.pool.OneFree)
    {url : String} {pending : List String}
    (hpending : s.pending = url :: pending) :
    s.startNext.pending = pending ∧
      ((∀ told, s.startNext.Between f
          (calls ++ [⟨url, s.fetcher.now, told⟩])) ∨
        ∃ job, job.url = url ∧
          s.startNext.Within f calls job s.fetcher.now) := by
  obtain ⟨g, hcalls, hg⟩ := h.fetched
  have hroom : s.hasRoom := by
    simp [hasRoom, h.rooms, h.pool, hpool.size]
  have hfree : s.fetcher.pool.OneFree := h.pool ▸ hpool
  rcases hstart : s.fetcher.start url with ⟨fault | job, k, startLog⟩
  · have hstarted := Fetcher.started_of_eq hstart
    have hnext : s.startNext =
        { s with
          fetcher := k
          pending
          rooms := []
          bodies := s.bodies ++ [(url, (k.orEmpty url (.error fault)).1)]
          log := s.log ++ startLog ++ (endOf k url (.error fault)).2 } := by
      simp only [startNext, hpending, hroom, Bool.not_true, Bool.false_eq_true,
        if_false, hstart]
      rw [handOut_of_done (by rw [h.rooms]; rfl)]
      rfl
    rw [hnext]
    refine ⟨rfl, Or.inl fun told => ⟨rfl, hstarted.pool_of_over.trans h.pool,
      k, ?_, rfl⟩⟩
    have hcall : g.fetchAt ⟨url, s.fetcher.now, told⟩ =
        (some (k.orEmpty url (.error fault)).1, k,
          startLog ++ (k.orEmpty url (.error fault)).2) := by
      simp only [Fetcher.fetchAt, Fetcher.tryFetchAt, ← hg, hstart]
    rw [Fetcher.oneByOne_concat hcalls hcall]
    simp [endOf]
  · have hstarted := Fetcher.started_of_eq hstart
    have hnext : s.startNext =
        { s with
          fetcher := k
          pending
          rooms := [.going job]
          log := s.log ++ startLog } := by
      simp only [startNext, hpending, hroom, Bool.not_true, Bool.false_eq_true,
        if_false, hstart, h.rooms, List.nil_append]
    obtain ⟨htaken, download, hphase⟩ := hstarted.job_of_oneFree hfree
    rw [hnext]
    refine ⟨rfl, Or.inr ⟨job, hstarted.url, rfl, ?_, download, g, k, s.log,
      startLog, hphase, hcalls, ?_, rfl, rfl⟩⟩
    · rw [htaken, h.pool]
    · rw [hstarted.url, ← hg, hstart]

/-- While a fetch goes on, there is no room for another one. -/
theorem Within.start (h : s.Within f calls job asked) (hpool : f.pool.OneFree) :
    s.startNext = s := by
  have hroom : s.hasRoom = false := by
    have hsize : s.fetcher.pool.size = 1 := by
      rw [h.pool]
      exact hpool.size
    simp [hasRoom, h.rooms, hsize]
  unfold startNext
  split
  · rfl
  · simp [hroom]

/-- Between two fetches none can go on. -/
theorem Between.advance (h : s.Between f calls) (i : ℕ) : s.advance i = s := by
  simp [Sweep.advance, h.rooms]

/-- The fetch that goes on ends and gives its worker back. -/
theorem Within.advance (h : s.Within f calls job asked)
    (hpool : f.pool.OneFree) :
    (s.advance 0).pending = s.pending ∧
      (s.advance 0).Between f (calls ++ [⟨job.url, asked, s.fetcher.now⟩]) := by
  obtain ⟨download, g, k, log, startLog, hphase, hcalls, hstart, hk, hlog⟩ :=
    h.begun
  let e := (s.fetcher.finish job download).1
  have hnext : s.advance 0 =
      { s with
        fetcher := e
        rooms := []
        bodies := s.bodies ++ [(job.url, (e.orEmpty job.url download.result).1)]
        log := s.log ++ (s.fetcher.finish job download).2 ++
          (endOf e job.url download.result).2 } := by
    have hroom : s.rooms[0]? = some (.going job) := by
      rw [h.rooms]
      rfl
    simp only [Sweep.advance, hroom, hphase]
    rw [handOut_of_done (by rw [h.rooms]; rfl)]
    rfl
  rw [hnext]
  refine ⟨rfl, rfl, ?_, e, ?_, rfl⟩
  · have hreleased : e.pool = s.fetcher.pool.release := rfl
    rw [hreleased, h.pool, hpool.takeFree_release]
  · have hcall : g.fetchAt ⟨job.url, asked, s.fetcher.now⟩ =
        (some (e.orEmpty job.url download.result).1, e,
          startLog ++ (s.fetcher.finish job download).2 ++
            (e.orEmpty job.url download.result).2) := by
      simp only [Fetcher.fetchAt, Fetcher.tryFetchAt, hstart, hphase, ← hk]
      rfl
    rw [Fetcher.oneByOne_concat hcalls hcall, hlog]
    simp [endOf]

/-! ## Any moves -/

/-- Readings of a clock, each one twice. -/
def twice (clock : List ℕ) : List ℕ :=
  clock.flatMap fun now => [now, now]

theorem twice_concat (clock : List ℕ) (now : ℕ) :
    twice (clock ++ [now]) = twice clock ++ ([now] ++ [now]) :=
  List.flatMap_append

theorem mem_twice {clock : List ℕ} {now : ℕ} : now ∈ twice clock ↔ now ∈ clock := by
  simp [twice]

/-- A sweep over some URLs at any time, after the clock has been read some times:
it is between two fetches or within one, and those that have ended have come to
what calls come to one by one, which read the same clock in the same order. -/
inductive Sequential (f : Fetcher) (urls : List String) (clock : List ℕ)
    (s : Sweep) : Prop where
  | between {calls : List Call} (h : s.Between f calls)
      (hurls : calls.map Call.url ++ s.pending = urls)
      (hclock : (calls.flatMap Call.readings).Sublist (twice clock))
  | within {calls : List Call} {job : Job} {asked : ℕ}
      (h : s.Within f calls job asked)
      (hurls : calls.map Call.url ++ job.url :: s.pending = urls)
      (hclock : (calls.flatMap Call.readings ++ [asked]).Sublist (twice clock))

variable {urls : List String} {clock : List ℕ}

theorem sequential_ofUrls (f : Fetcher) (urls : List String) :
    (ofUrls f urls).Sequential f urls [] :=
  .between (between_ofUrls f urls) rfl (List.Sublist.refl _)

theorem Sequential.clocked (h : s.Sequential f urls clock) (now : ℕ) :
    (s.clocked now).Sequential f urls (clock ++ [now]) := by
  have hlater : (twice clock).Sublist (twice (clock ++ [now])) := by
    rw [twice_concat]
    exact List.sublist_append_left _ _
  cases h with
  | between h hurls hclock =>
      exact .between (h.clocked now) hurls (hclock.trans hlater)
  | within h hurls hclock =>
      exact .within (h.clocked now) hurls (hclock.trans hlater)

/-- The next fetch is over at once or goes on, as calls do one by one. -/
theorem Between.sequential_start (h : s.Between f calls)
    (hpool : f.pool.OneFree) {url : String} {pending : List String}
    (hpending : s.pending = url :: pending)
    (hurls : calls.map Call.url ++ s.pending = urls)
    (hclock : (calls.flatMap Call.readings).Sublist (twice clock)) :
    s.startNext.Sequential f urls (clock ++ [s.fetcher.now]) := by
  rw [hpending] at hurls
  obtain ⟨hrest, hnext | ⟨job, rfl, hnext⟩⟩ := h.start hpool hpending
  · refine .between (hnext s.fetcher.now) ?_ ?_
    · rw [hrest, List.map_append, List.append_assoc]
      exact hurls
    · rw [twice_concat, List.flatMap_append]
      exact hclock.append (List.Sublist.refl _)
  · refine .within hnext ?_ ?_
    · rw [hrest]
      exact hurls
    · rw [twice_concat]
      exact hclock.append (List.sublist_append_left _ _)

/-- The fetch that goes on ends, as calls do one by one. -/
theorem Within.sequential_advance (h : s.Within f calls job asked)
    (hpool : f.pool.OneFree)
    (hurls : calls.map Call.url ++ job.url :: s.pending = urls)
    (hclock : (calls.flatMap Call.readings ++ [asked]).Sublist (twice clock)) :
    (s.advance 0).Sequential f urls (clock ++ [s.fetcher.now]) := by
  obtain ⟨hrest, hnext⟩ := h.advance hpool
  refine .between hnext ?_ ?_
  · rw [hrest, List.map_append, List.append_assoc]
    exact hurls
  · have htold : [Call.mk job.url asked s.fetcher.now].flatMap Call.readings =
        [asked] ++ [s.fetcher.now] := rfl
    rw [twice_concat, List.flatMap_append, htold, ← List.append_assoc]
    exact hclock.append (List.sublist_append_left _ _)

/-- At one more reading of the clock, the fetch that goes on ends, or the next
one is started, or nothing happens. -/
theorem Sequential.move (h : s.Sequential f urls clock) (hpool : f.pool.OneFree)
    (now : ℕ) (m : Move) :
    ((s.clocked now).move m).Sequential f urls (clock ++ [now]) := by
  have hsame := h.clocked now
  cases h with
  | between h hurls hclock =>
      replace h := h.clocked now
      cases m with
      | advance i =>
          rw [Sweep.move, h.advance i]
          exact hsame
      | start =>
          cases hpending : (s.clocked now).pending with
          | nil =>
              have hnone : (s.clocked now).startNext = s.clocked now := by
                simp only [startNext, hpending]
              rw [Sweep.move, hnone]
              exact hsame
          | cons url pending =>
              exact h.sequential_start hpool hpending hurls hclock
  | within h hurls hclock =>
      replace h := h.clocked now
      cases m with
      | start =>
          rw [Sweep.move, h.start hpool]
          exact hsame
      | advance i =>
          cases i with
          | zero => exact h.sequential_advance hpool hurls hclock
          | succ i =>
              have hnone : (s.clocked now).advance (i + 1) = s.clocked now := by
                simp [Sweep.advance, h.rooms]
              rw [Sweep.move, hnone]
              exact hsame

theorem Sequential.timed (h : s.Sequential f urls clock)
    (hpool : f.pool.OneFree) (ms : List (ℕ × Move)) :
    (s.timed ms).Sequential f urls (clock ++ ms.map Prod.fst) := by
  induction ms generalizing s clock with
  | nil =>
      rw [List.map_nil, List.append_nil]
      exact h
  | cons m ms ih =>
      have hrest := ih (h.move hpool m.1 m.2)
      rw [List.append_assoc] at hrest
      exact hrest

/-- A sweep that is over has come to what calls of all URLs come to. -/
theorem Sequential.of_isOver (h : s.Sequential f urls clock)
    (hover : s.isOver) :
    ∃ calls, calls.map Call.url = urls ∧
      (calls.flatMap Call.readings).Sublist (twice clock) ∧
      s.Between f calls := by
  simp only [isOver, Bool.and_eq_true, List.isEmpty_iff] at hover
  cases h with
  | @between calls h hurls hclock =>
      rw [hover.1, List.append_nil] at hurls
      exact ⟨calls, hurls, hclock, h⟩
  | within h hurls hclock =>
      have hrooms := h.rooms
      rw [hover.2] at hrooms
      cases hrooms

/-! ## Moves for given calls -/

/-- The moves that make some calls one by one. -/
def movesOf (calls : List Call) : List (ℕ × Move) :=
  calls.flatMap fun call => [(call.asked, .start), (call.told, .advance 0)]

theorem map_fst_movesOf (calls : List Call) :
    (movesOf calls).map Prod.fst = calls.flatMap Call.readings := by
  rw [movesOf, List.map_flatMap]
  rfl

theorem Between.timed_movesOf_singleton (h : s.Between f calls) (hpool : f.pool.OneFree)
    (call : Call) {pending : List String}
    (hpending : s.pending = call.url :: pending) :
    (s.timed (movesOf [call])).Between f (calls ++ [call]) ∧
      (s.timed (movesOf [call])).pending = pending := by
  let t := (s.clocked call.asked).startNext
  have htimed : s.timed (movesOf [call]) = (t.clocked call.told).advance 0 := rfl
  obtain ⟨hrest, hnext | ⟨job, hurl, hnext⟩⟩ :=
    (h.clocked call.asked).start hpool hpending
  · have hover := (hnext call.told).clocked call.told
    rw [htimed, hover.advance 0]
    exact ⟨hover, hrest⟩
  · obtain ⟨hended, hover⟩ := (hnext.clocked call.told).advance hpool
    rw [htimed]
    rw [hurl] at hover
    exact ⟨hover, hended.trans hrest⟩

theorem Between.timed_movesOf (h : s.Between f calls) (hpool : f.pool.OneFree)
    (more : List Call) (hpending : s.pending = more.map Call.url) :
    (s.timed (movesOf more)).Between f (calls ++ more) ∧
      (s.timed (movesOf more)).pending = [] := by
  induction more generalizing s calls with
  | nil =>
      rw [List.append_nil]
      exact ⟨h, hpending⟩
  | cons call more ih =>
      obtain ⟨hnext, hrest⟩ := h.timed_movesOf_singleton hpool call hpending
      have hmoves : movesOf (call :: more) = movesOf [call] ++ movesOf more := rfl
      rw [hmoves, timed_append, List.append_cons]
      exact ih hnext hrest

/-! ## While no time passes -/

/-- Calls that read the clock at the same time are given by their URLs. -/
theorem eq_map_of_readings {now : ℕ}
    (h : ∀ reading ∈ calls.flatMap Call.readings, reading = now) :
    calls = (calls.map Call.url).map fun url => ⟨url, now, now⟩ := by
  induction calls with
  | nil => rfl
  | cons call calls ih =>
      rw [List.flatMap_cons, List.forall_mem_append] at h
      obtain ⟨hfirst, hrest⟩ := h
      obtain ⟨url, asked, told⟩ := call
      obtain rfl : asked = now := hfirst asked (by simp [Call.readings])
      obtain rfl : told = asked := hfirst told (by simp [Call.readings])
      rw [List.map_cons, List.map_cons, ← ih hrest]

/-- A sweep that is over has come to what the fetches come to one by one. -/
theorem oneByOne_of_isOver (hpool : f.pool.OneFree) (urls : List String)
    (ms : List Move) (hover : ((ofUrls f urls).moves ms).isOver) :
    f.oneByOne id Fetcher.fetch urls =
      (some ((ofUrls f urls).moves ms).bodies,
        ((ofUrls f urls).moves ms).fetcher, ((ofUrls f urls).moves ms).log) := by
  have hnow : ((ofUrls f urls).moves ms).fetcher.now = f.now :=
    (ofUrls f urls).now_moves ms
  have htimed : (ofUrls f urls).timed (ms.map fun m => (f.now, m)) =
      (ofUrls f urls).moves ms := (ofUrls f urls).timed_map_now ms
  have hsequential := (sequential_ofUrls f urls).timed hpool
    (ms.map fun m => (f.now, m))
  rw [htimed] at hsequential
  obtain ⟨calls, hurls, hclock, hbetween⟩ := hsequential.of_isOver hover
  obtain ⟨g, hcalls, hg⟩ := hbetween.fetched
  have hreadings : ∀ reading ∈ calls.flatMap Call.readings, reading = f.now := by
    intro reading hreading
    have hmem := mem_twice.mp (hclock.subset hreading)
    rw [List.nil_append, List.map_map] at hmem
    obtain ⟨m, -, hm⟩ := List.mem_map.mp hmem
    exact hm.symm
  rw [eq_map_of_readings hreadings, hurls] at hcalls
  obtain ⟨hsame, hlast⟩ := f.oneByOne_fetchAt_now urls
  rw [hsame] at hcalls
  rw [hcalls] at hlast
  have hclocked : g.clocked g.now = g := rfl
  rw [hcalls, hg, hnow, ← hlast, hclocked]

end Sweep

end Newsstand
