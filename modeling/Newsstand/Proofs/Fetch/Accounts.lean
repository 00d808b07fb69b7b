import Mathlib.Data.Multiset.Filter
import Newsstand.Fetch.Sweep
import Newsstand.Proofs.Breaker.Situation
import Newsstand.Proofs.Fetch.Start
import Newsstand.Proofs.WorkerPool.Staffing

/-!
# The accounts of a fetcher

While fetches go on, each of them holds a permit of the breaker, and a worker
or a place in the queue of the pool.  The accounts of a fetcher are in order if
breaker and pool agree with this: the breaker has been asked once for each
fetch, and of what it permitted exactly these permits are still to be settled;
and of the pool exactly these workers and places are taken, besides the workers
that are held from outside.

Whatever a fetch does preserves this, whichever fetch does it and whenever.
-/

namespace Newsstand

/-- The place of a fetch that waits for a worker. -/
def Job.place? (job : Job) : Option ℕ :=
  match job.phase with
  | .waiting number => some number
  | .downloading _ => none

/-- The readings of the clock in a call are of 64 bits where they are not the
one before, which is `now` at first. -/
structure Call.TimedFrom (now : ℕ) (call : Call) : Prop where
  asked : call.asked = now ∨ call.asked < UInt64.size
  told : call.told = call.asked ∨ call.told < UInt64.size

theorem Call.timedFrom_of_readings {call : Call}
    (h : ∀ now ∈ call.readings, now < UInt64.size) (now : ℕ) :
    call.TimedFrom now := by
  simp only [readings, List.forall_mem_cons] at h
  obtain ⟨hasked, htold, -⟩ := h
  exact ⟨Or.inr hasked, Or.inr htold⟩

/-- While no time passes, a call reads what the clock says all along. -/
theorem Call.timedFrom_self (url : String) (now : ℕ) :
    Call.TimedFrom now ⟨url, now, now⟩ :=
  ⟨Or.inl rfl, Or.inl rfl⟩

/-- What is still to come of a fetch when it is started. -/
def Beginning.jobs : Beginning → Multiset Job
  | .over _ => 0
  | .job begun => {begun}

namespace Fetcher

/-! ## Jobs -/

/-- The number of jobs that have a worker. -/
def busy (jobs : Multiset Job) : ℕ :=
  jobs.countP (·.place? = none)

/-- The places of the jobs that wait for a worker. -/
def places (jobs : Multiset Job) : Multiset ℕ :=
  jobs.filterMap Job.place?

variable {job : Job} {jobs : Multiset Job}

theorem busy_cons_of_downloading {download : Download}
    (h : job.phase = .downloading download) :
    busy (job ::ₘ jobs) = busy jobs + 1 :=
  Multiset.countP_cons_of_pos _ (by simp only [Job.place?, h])

theorem busy_cons_of_waiting {number : ℕ} (h : job.phase = .waiting number) :
    busy (job ::ₘ jobs) = busy jobs :=
  Multiset.countP_cons_of_neg _ (by simp [Job.place?, h])

theorem places_cons_of_downloading {download : Download}
    (h : job.phase = .downloading download) :
    places (job ::ₘ jobs) = places jobs :=
  Multiset.filterMap_cons_none _ _ (by simp only [Job.place?, h])

theorem places_cons_of_waiting {number : ℕ} (h : job.phase = .waiting number) :
    places (job ::ₘ jobs) = number ::ₘ places jobs :=
  Multiset.filterMap_cons_some _ _ _ (by simp only [Job.place?, h])

/-- Every job has a worker or a place. -/
theorem card_eq (jobs : Multiset Job) :
    jobs.card = busy jobs + (places jobs).card := by
  induction jobs using Multiset.induction with
  | empty => rfl
  | cons job jobs ih =>
      rw [Multiset.card_cons, ih]
      cases hphase : job.phase with
      | waiting number =>
          rw [busy_cons_of_waiting hphase, places_cons_of_waiting hphase,
            Multiset.card_cons, Nat.add_assoc]
      | downloading download =>
          rw [busy_cons_of_downloading hphase,
            places_cons_of_downloading hphase, Nat.add_right_comm]

/-! ## The accounts -/

/-- The situation of the breaker while some jobs go on. -/
def situation (f : Fetcher) (jobs : Multiset Job) : Breaker.Situation :=
  ⟨f.breaker, f.now, jobs.map (·.permit)⟩

/-- The accounts of a fetcher are in order while some jobs go on and `held`
workers are held from outside.  Acts on the breaker, which has been asked
`asked` times, lead to its situation from the one at the origin. -/
structure InOrder (origin : Breaker.Situation) (f : Fetcher)
    (jobs : Multiset Job) (held asked : ℕ) : Prop where
  staffed : f.pool.Staffed (held + busy jobs) (places jobs)
  reached : ∃ past : List Breaker.Act,
    past.count .ask = asked ∧ f.situation jobs = origin.after past

variable {origin : Breaker.Situation} {f : Fetcher} {held asked : ℕ}

theorem inOrder_ofConfig (config : FetchConfig) (breaker : BreakerConfig)
    (network : Network) :
    InOrder (.start config.group breaker 0) (.ofConfig config breaker network)
      0 0 0 :=
  ⟨WorkerPool.staffed_create _ _ _, [], rfl, rfl⟩

/-! ## Starting -/

/-- A job that starts its download has the worker that was taken for it. -/
theorem staffed_send (f : Fetcher) (url : String) (permit : Permit)
    (h : f.pool.Staffed (held + busy jobs + 1) (places jobs)) :
    (f.send url permit).2.pool.Staffed
      (held + busy ((f.send url permit).1 ::ₘ jobs))
      (places ((f.send url permit).1 ::ₘ jobs)) := by
  rw [busy_cons_of_downloading rfl, places_cons_of_downloading rfl]
  exact h

theorem situation_send (f : Fetcher) (url : String) (permit : Permit)
    (jobs : Multiset Job) :
    (f.send url permit).2.situation ((f.send url permit).1 ::ₘ jobs) =
      ⟨f.breaker, f.now, permit ::ₘ jobs.map (·.permit)⟩ := by
  simp only [situation, send, Multiset.map_cons]

/-- Who is turned away by the pool gives the permit up. -/
theorem situation_abandoned {permit : Permit} {breaker : Breaker} {log : Log}
    (hask : f.breaker.ask f.now = (some permit, breaker, log))
    (jobs : Multiset Job) :
    (({ f with breaker } : Fetcher).settle permit .abandoned).1.situation jobs =
      ((f.situation jobs).act .ask).act (.settle permit .abandoned) := by
  rw [Breaker.Situation.act_ask_of_some (s := f.situation jobs) hask,
    Breaker.Situation.act_settle_of_mem (Multiset.mem_cons_self _ _),
    Multiset.erase_cons_head]
  rfl

theorem InOrder.start (h : InOrder origin f jobs held asked) (url : String) :
    InOrder origin (f.start url).2.1 ((f.start url).1.jobs + jobs) held
      (asked + 1) := by
  have hstaffed := h.staffed
  obtain ⟨past, hcount, hpast⟩ := h.reached
  have hcount_ask :
      (.ask :: past : List Breaker.Act).count .ask = asked + 1 := by
    rw [List.count_cons_self, hcount]
  have hask_after := congrArg (·.act .ask) hpast
  simp only [Fetcher.start]
  split
  next breaker log hask =>
      rw [Breaker.Situation.act_ask_of_none (s := f.situation jobs) hask]
        at hask_after
      simp only [Beginning.jobs, Multiset.zero_add]
      exact ⟨hstaffed, .ask :: past, hcount_ask, hask_after⟩
  next permit breaker log hask =>
      have hasked := hask_after
      rw [Breaker.Situation.act_ask_of_some (s := f.situation jobs) hask]
        at hasked
      obtain ⟨hfree, hacquire⟩ | ⟨-, -, hacquire⟩ | ⟨-, -, hacquire⟩ :=
        f.pool.acquire_cases
      · simp only [hacquire, Beginning.jobs, Multiset.singleton_add]
        refine ⟨staffed_send _ url permit (hstaffed.takeFree hfree),
          .ask :: past, hcount_ask, ?_⟩
        rw [situation_send]
        exact hasked
      · simp only [hacquire, Beginning.jobs, Multiset.zero_add]
        refine ⟨hstaffed, .settle permit .abandoned :: .ask :: past, ?_, ?_⟩
        · rw [List.count_cons_of_ne (by simp), hcount_ask]
        · rw [Breaker.Situation.after_cons, Breaker.Situation.after_cons,
            ← hpast]
          exact situation_abandoned hask jobs
      · simp only [hacquire, Beginning.jobs, Multiset.singleton_add]
        refine ⟨?_, .ask :: past, hcount_ask, ?_⟩
        · rw [busy_cons_of_waiting rfl, places_cons_of_waiting rfl]
          exact hstaffed.enqueue
        · rw [Breaker.Situation.after_cons, ← hasked, situation,
            Multiset.map_cons]
          rfl

/-! ## Going on and ending -/

theorem InOrder.resume {number : ℕ} {next : Job} {g : Fetcher}
    (h : InOrder origin f (job ::ₘ jobs) held asked)
    (hphase : job.phase = .waiting number)
    (hresume : f.resume job number = some (next, g)) :
    InOrder origin g (next ::ₘ jobs) held asked := by
  obtain ⟨past, hcount, hpast⟩ := h.reached
  have hstaffed := h.staffed
  rw [busy_cons_of_waiting hphase, places_cons_of_waiting hphase] at hstaffed
  unfold Fetcher.resume at hresume
  split at hresume
  next => cases hresume
  next pool hpoll =>
      have hsend := Option.some.inj hresume
      have hpool := staffed_send { f with pool } job.url job.permit
        (hstaffed.poll hpoll)
      have hsituation := situation_send { f with pool } job.url job.permit jobs
      rw [hsend] at hpool hsituation
      refine ⟨hpool, past, hcount, ?_⟩
      rw [hsituation, ← hpast, situation, Multiset.map_cons]

theorem InOrder.finish {download : Download}
    (h : InOrder origin f (job ::ₘ jobs) held asked)
    (hphase : job.phase = .downloading download) :
    InOrder origin (f.finish job download).1 jobs held asked := by
  have hstaffed := h.staffed
  rw [busy_cons_of_downloading hphase, places_cons_of_downloading hphase]
    at hstaffed
  obtain ⟨past, hcount, hpast⟩ := h.reached
  have hheld : job.permit ∈ (f.situation (job ::ₘ jobs)).permits := by
    simp [situation]
  refine ⟨hstaffed.release,
    .settle job.permit (outcomeOf download.result) :: past, ?_, ?_⟩
  · rw [List.count_cons_of_ne (by simp), hcount]
  · rw [Breaker.Situation.after_cons, ← hpast,
      Breaker.Situation.act_settle_of_mem hheld]
    simp only [situation, Multiset.map_cons, Multiset.erase_cons_head]
    rfl

/-! ## What comes from outside -/

theorem InOrder.wait (h : InOrder origin f jobs held asked) (ms : ℕ) :
    InOrder origin { f with now := Breaker.later f.now ms } jobs held
      asked := by
  obtain ⟨past, hcount, hpast⟩ := h.reached
  refine ⟨h.staffed, .wait ms :: past, ?_, congrArg (·.act (.wait ms)) hpast⟩
  rw [List.count_cons_of_ne (by simp), hcount]

/-- The clock may stay as it is, or come to any reading of 64 bits. -/
theorem InOrder.clocked (h : InOrder origin f jobs held asked) {now : ℕ}
    (hnow : now = f.now ∨ now < UInt64.size) :
    InOrder origin (f.clocked now) jobs held asked := by
  rcases hnow with rfl | hlt
  · exact h
  · obtain ⟨ms, rfl⟩ := Breaker.exists_later_eq f.now hlt
    exact h.wait ms

theorem InOrder.takeFree (h : InOrder origin f jobs held asked)
    (hfree : 0 < f.pool.free) :
    InOrder origin { f with pool := f.pool.takeFree } jobs (held + 1)
      asked := by
  refine ⟨?_, h.reached⟩
  rw [Nat.add_right_comm]
  exact h.staffed.takeFree hfree

theorem InOrder.release (h : InOrder origin f jobs (held + 1) asked) :
    InOrder origin { f with pool := f.pool.release } jobs held asked := by
  have hstaffed := h.staffed
  rw [Nat.add_right_comm] at hstaffed
  exact ⟨hstaffed.release, h.reached⟩

/-! ## Single fetches -/

variable {g : Fetcher} {log : Log}

/-- A fetch that comes to an end while nothing else goes on leaves no job,
however much time passes. -/
theorem InOrder.tryFetchAt {call : Call} {result : Except FetchFault String}
    (h : InOrder origin f 0 held asked) (hcall : call.TimedFrom f.now)
    (hfetch : f.tryFetchAt call = (some result, g, log)) :
    InOrder origin g 0 held (asked + 1) := by
  have htold := hcall.told
  have hstart := (h.clocked hcall.asked).start call.url
  rw [Multiset.add_zero] at hstart
  unfold Fetcher.tryFetchAt at hfetch
  split at hfetch
  next fault next startLog heq =>
      rw [heq] at hstart
      cases hfetch
      exact hstart
  next job next startLog heq =>
      have hnow : next.now = call.asked := (started_of_eq heq).now
      rw [heq] at hstart
      rw [← hnow] at htold
      split at hfetch
      next => cases hfetch
      next download hphase =>
          cases hfetch
          exact InOrder.finish (InOrder.clocked hstart htold) hphase

theorem InOrder.fetchAt {call : Call} {body : String}
    (h : InOrder origin f 0 held asked) (hcall : call.TimedFrom f.now)
    (hfetch : f.fetchAt call = (some body, g, log)) :
    InOrder origin g 0 held (asked + 1) := by
  unfold Fetcher.fetchAt at hfetch
  split at hfetch
  next => cases hfetch
  next result next fetchLog heq =>
      cases hfetch
      exact h.tryFetchAt hcall heq

theorem InOrder.tryFetch {url : String} {result : Except FetchFault String}
    (h : InOrder origin f 0 held asked)
    (hfetch : f.tryFetch url = (some result, g, log)) :
    InOrder origin g 0 held (asked + 1) := by
  rw [← tryFetchAt_now] at hfetch
  exact h.tryFetchAt (Call.timedFrom_self url f.now) hfetch

theorem InOrder.fetch {url body : String} (h : InOrder origin f 0 held asked)
    (hfetch : f.fetch url = (some body, g, log)) :
    InOrder origin g 0 held (asked + 1) := by
  rw [← fetchAt_now] at hfetch
  exact h.fetchAt (Call.timedFrom_self url f.now) hfetch

end Fetcher

end Newsstand
