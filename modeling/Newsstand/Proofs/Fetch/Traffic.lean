import Mathlib.Logic.Relation
import Newsstand.Proofs.Breaker.Transition
import Newsstand.Proofs.Fetch.Accounts
import Newsstand.Proofs.Fetch.Start

/-!
# Traffic at an open circuit

Many use one fetcher at a time.  Single fetches and the fetches of any number of
lists start, go on and end in any order, workers are taken and given back from
outside or asked for in vain, and time passes.  Traffic is a fetcher with all
the fetches that go on.

The breaker is asked when a fetch starts.  A fetch that gets a worker at once
therefore never downloads while the circuit is open.  But one that has to wait
is not asked for again when its worker comes: it may have been let in while the
circuit was closed, and download although others have opened the circuit since.
It is shown that this is the only way, and that it happens.
-/

namespace Newsstand

/-- The fetch whose download is started as a fetch is started. -/
def Beginning.sent? : Beginning → Option Job
  | .over _ => none
  | .job begun =>
      match begun.phase with
      | .waiting _ => none
      | .downloading _ => some begun

/-! ## Letting in -/

/-- Who is let in finds the circuit closed, or half-open by then. -/
theorem Breaker.circuit_of_ask {b c : Breaker} {now : ℕ} {permit : Permit}
    {log : Log} (h : b.ask now = (some permit, c, log)) :
    c.circuit ≠ .opened ∧ (permit = .ordinary → b.circuit = .closed) := by
  cases hcircuit : b.circuit with
  | closed =>
      rw [ask_of_closed hcircuit] at h
      cases h
      simp [hcircuit]
  | opened =>
      by_cases hslept : b.hasSlept now
      · rw [ask_of_slept hcircuit hslept] at h
        cases h
        simp
      · rw [ask_of_asleep hcircuit hslept] at h
        cases h
  | halfOpen =>
      rw [ask_of_halfOpen hcircuit] at h
      cases h

/-- A fetch with an ordinary permit is let in by a closed circuit. -/
theorem Fetcher.Started.circuit_eq_closed {f g : Fetcher} {url : String}
    {job : Job} (h : f.Started url (.job job) g)
    (hpermit : job.permit = .ordinary) : f.breaker.circuit = .closed := by
  cases h with
  | waiting hask hfree hroom =>
      exact (Breaker.circuit_of_ask hask).2 hpermit
  | sent hask hfree => exact (Breaker.circuit_of_ask hask).2 hpermit

/-- No circuit is open by which a fetch is let in that downloads at once. -/
theorem Fetcher.Started.circuit_of_sent {f g : Fetcher} {url : String}
    {beginning : Beginning} {job : Job} (h : f.Started url beginning g)
    (hsent : beginning.sent? = some job) : g.breaker.circuit ≠ .opened := by
  cases h with
  | refused hask => cases hsent
  | rejected hask hfree hfull => cases hsent
  | waiting hask hfree hroom => cases hsent
  | sent hask hfree => exact (Breaker.circuit_of_ask hask).1

/-! ## Traffic -/

/-- The pool after a caller has joined the queue and left it again. -/
def WorkerPool.passBy (p : WorkerPool) : WorkerPool :=
  p.enqueue.cancel p.nextNumber

/-- A fetcher in use: the fetches that go on, and the number of workers that are
held from outside. -/
structure Traffic where
  fetcher : Fetcher
  jobs : Multiset Job
  held : ℕ

namespace Traffic

/-- The traffic of a fetcher that has just been set up. -/
def ofConfig (config : FetchConfig) (breaker : BreakerConfig)
    (network : Network) : Traffic :=
  ⟨.ofConfig config breaker network, 0, 0⟩

/-- The traffic after the fetch of a URL is started. -/
def started (t : Traffic) (url : String) : Traffic :=
  ⟨(t.fetcher.start url).2.1, (t.fetcher.start url).1.jobs + t.jobs, t.held⟩

/-- What can happen next, with the fetch whose download is started by it. -/
inductive Step (t : Traffic) : Option Job → Traffic → Prop where
  | start (url : String) :
      Step t (t.fetcher.start url).1.sent? (t.started url)
  | resume {job next : Job} {others : Multiset Job} {number : ℕ} {g : Fetcher}
      (hjobs : t.jobs = job ::ₘ others) (hphase : job.phase = .waiting number)
      (hresume : t.fetcher.resume job number = some (next, g)) :
      Step t (some next) ⟨g, next ::ₘ others, t.held⟩
  | finish {job : Job} {others : Multiset Job} {download : Download}
      (hjobs : t.jobs = job ::ₘ others)
      (hphase : job.phase = .downloading download) :
      Step t none ⟨(t.fetcher.finish job download).1, others, t.held⟩
  | hold (hfree : 0 < t.fetcher.pool.free) :
      Step t none ⟨{ t.fetcher with pool := t.fetcher.pool.takeFree }, t.jobs,
        t.held + 1⟩
  | passBy (hfree : t.fetcher.pool.free = 0) :
      Step t none ⟨{ t.fetcher with pool := t.fetcher.pool.passBy }, t.jobs,
        t.held⟩
  | release {held : ℕ} (hheld : t.held = held + 1) :
      Step t none ⟨{ t.fetcher with pool := t.fetcher.pool.release }, t.jobs,
        held⟩
  | wait (ms : ℕ) :
      Step t none ⟨{ t.fetcher with now := Breaker.later t.fetcher.now ms },
        t.jobs, t.held⟩

/-- Something happens that leads from one traffic to the next one. -/
def Goes (t u : Traffic) : Prop :=
  ∃ sent?, t.Step sent? u

/-- Some things happen, one after another. -/
def Reaches (t u : Traffic) : Prop :=
  Relation.ReflTransGen Goes t u

/-- Some things happen, and a fetch goes on all the while as it does. -/
def Keeps (job : Job) (t u : Traffic) : Prop :=
  Relation.ReflTransGen (fun t u => Goes t u ∧ job ∈ u.jobs) t u

variable {origin : Breaker.Situation} {t u : Traffic}

/-- The clock may stay as it is, or come to any reading of 64 bits. -/
theorem reaches_clocked (t : Traffic) {now : ℕ}
    (hnow : now = t.fetcher.now ∨ now < UInt64.size) :
    t.Reaches ⟨t.fetcher.clocked now, t.jobs, t.held⟩ := by
  rcases hnow with rfl | hlt
  · exact Relation.ReflTransGen.refl
  · obtain ⟨ms, rfl⟩ := Breaker.exists_later_eq t.fetcher.now hlt
    exact Relation.ReflTransGen.single ⟨none, .wait ms⟩

/-! ## Accounts -/

/-- The accounts of the fetcher are in order. -/
def InOrder (origin : Breaker.Situation) (t : Traffic) : Prop :=
  ∃ asked, t.fetcher.InOrder origin t.jobs t.held asked

theorem InOrder.step (h : t.InOrder origin) {sent? : Option Job}
    (hstep : t.Step sent? u) : u.InOrder origin := by
  obtain ⟨asked, hfetcher⟩ := h
  cases hstep with
  | start url => exact ⟨asked + 1, hfetcher.start url⟩
  | resume hjobs hphase hresume =>
      rw [hjobs] at hfetcher
      exact ⟨asked, hfetcher.resume hphase hresume⟩
  | finish hjobs hphase =>
      rw [hjobs] at hfetcher
      exact ⟨asked, hfetcher.finish hphase⟩
  | hold hfree => exact ⟨asked, hfetcher.takeFree hfree⟩
  | passBy hfree =>
      exact ⟨asked, hfetcher.staffed.enqueue.cancel, hfetcher.reached⟩
  | release hheld =>
      rw [hheld] at hfetcher
      exact ⟨asked, hfetcher.release⟩
  | wait ms => exact ⟨asked, hfetcher.wait ms⟩

theorem InOrder.reaches (h : t.InOrder origin) (hreaches : t.Reaches u) :
    u.InOrder origin := by
  induction hreaches with
  | refl => exact h
  | tail _ hgoes ih =>
      obtain ⟨sent?, hstep⟩ := hgoes
      exact ih.step hstep

/-- While the circuit is open, no fetch that goes on is a trial. -/
theorem InOrder.permit_of_opened (h : t.InOrder origin)
    (hcoherent : origin.Coherent)
    (hopened : t.fetcher.breaker.circuit = .opened) {job : Job}
    (hjob : job ∈ t.jobs) : job.permit = .ordinary := by
  obtain ⟨asked, -, past, -, hpast⟩ := h
  have hnow := hcoherent.after past
  rw [← hpast] at hnow
  cases hpermit : job.permit with
  | ordinary => rfl
  | trial =>
      have hheld : .trial ∈ (t.fetcher.situation t.jobs).permits :=
        Multiset.mem_map.mpr ⟨job, hjob, hpermit⟩
      have hhalf : t.fetcher.breaker.circuit = .halfOpen :=
        hnow.halfOpen_iff.mpr hheld
      rw [hopened] at hhalf
      cases hhalf

/-! ## Where waiting fetches come from -/

/-- A fetch that waits after something has happened has waited before, or it has
just been started. -/
theorem waiting_of_step {sent? : Option Job} (hstep : t.Step sent? u)
    {job : Job} {number : ℕ} (hphase : job.phase = .waiting number)
    (hjob : job ∈ u.jobs) :
    job ∈ t.jobs ∨ (t.fetcher.start job.url).1 = .job job ∧
      u = t.started job.url := by
  cases hstep with
  | start url =>
      rcases Multiset.mem_add.mp hjob with hnew | hold
      · right
        rcases hstart : (t.fetcher.start url).1 with fault | begun
        · rw [hstart] at hnew
          exact absurd hnew (Multiset.notMem_zero _)
        · rw [hstart] at hnew
          obtain rfl := Multiset.mem_singleton.mp hnew
          have hstarted := t.fetcher.started_start url
          rw [hstart] at hstarted
          obtain rfl := hstarted.url
          exact ⟨hstart, rfl⟩
      · exact Or.inl hold
  | resume hjobs hwaiting hresume =>
      left
      obtain ⟨pool, -, rfl, -⟩ := Fetcher.resume_eq_some hresume
      rcases Multiset.mem_cons.mp hjob with rfl | hold
      · cases hphase
      · rw [hjobs]
        exact Multiset.mem_cons_of_mem hold
  | finish hjobs hdownloading =>
      left
      rw [hjobs]
      exact Multiset.mem_cons_of_mem hjob
  | hold hfree => exact Or.inl hjob
  | passBy hfree => exact Or.inl hjob
  | release hheld => exact Or.inl hjob
  | wait ms => exact Or.inl hjob

/-- A fetch that waits was started some time and has waited since. -/
theorem exists_started_of_waiting {origin : Traffic} (hnone : origin.jobs = 0)
    (h : origin.Reaches t) {job : Job} {number : ℕ}
    (hphase : job.phase = .waiting number) (hjob : job ∈ t.jobs) :
    ∃ v, origin.Reaches v ∧ (v.fetcher.start job.url).1 = .job job ∧
      Keeps job (v.started job.url) t := by
  induction h with
  | refl =>
      rw [hnone] at hjob
      exact absurd hjob (Multiset.notMem_zero _)
  | tail hpast hgoes ih =>
      obtain ⟨sent?, hstep⟩ := hgoes
      rcases waiting_of_step hstep hphase hjob with hold | ⟨hstart, rfl⟩
      · obtain ⟨v, hv, hstart, hkeeps⟩ := ih hold
        exact ⟨v, hv, hstart, hkeeps.tail ⟨⟨sent?, hstep⟩, hjob⟩⟩
      · exact ⟨_, hpast, hstart, Relation.ReflTransGen.refl⟩

/-! ## Downloads at an open circuit -/

/-- Whatever happens to a fetcher: a download that starts while the circuit is
open is that of a fetch that was let in earlier, while the circuit was closed,
and has waited for a worker since. -/
theorem let_in_closed_of_sent_opened (config : FetchConfig)
    (breaker : BreakerConfig) (network : Network)
    (ht : (ofConfig config breaker network).Reaches t) {job : Job}
    (hstep : t.Step (some job) u)
    (hopened : u.fetcher.breaker.circuit = .opened) :
    ∃ waiting number v,
      waiting.phase = .waiting number ∧
      t.fetcher.resume waiting number = some (job, u.fetcher) ∧
      (ofConfig config breaker network).Reaches v ∧
      v.fetcher.breaker.circuit = .closed ∧
      (v.fetcher.start job.url).1 = .job waiting ∧
      Keeps waiting (v.started job.url) t := by
  have horder : t.InOrder (.start config.group breaker 0) :=
    InOrder.reaches ⟨0, Fetcher.inOrder_ofConfig config breaker network⟩ ht
  generalize hsent : some job = sent? at hstep
  cases hstep with
  | start url =>
      have hstarted := t.fetcher.started_start url
      exact absurd hopened (hstarted.circuit_of_sent hsent.symm)
  | @resume waiting next others number g hjobs hphase hresume =>
      obtain rfl := Option.some.inj hsent
      obtain ⟨pool, -, hnext, hg⟩ := Fetcher.resume_eq_some hresume
      have hurl : job.url = waiting.url := by
        rw [hnext]
        rfl
      have hbefore : t.fetcher.breaker.circuit = .opened := by
        rw [hg] at hopened
        exact hopened
      have hwaiting : waiting ∈ t.jobs := by
        rw [hjobs]
        exact Multiset.mem_cons_self _ _
      have hpermit := horder.permit_of_opened
        (Breaker.Situation.start_coherent _ _ _) hbefore hwaiting
      obtain ⟨v, hv, hstart, hkeeps⟩ :=
        exists_started_of_waiting rfl ht hphase hwaiting
      have hstarted := v.fetcher.started_start waiting.url
      rw [hstart] at hstarted
      rw [hurl]
      exact ⟨waiting, number, v, hphase, hresume, hv,
        hstarted.circuit_eq_closed hpermit, hstart, hkeeps⟩
  | finish hjobs hphase => cases hsent
  | hold hfree => cases hsent
  | passBy hfree => cases hsent
  | release hheld => cases hsent
  | wait ms => cases hsent

/-- One of two workers is held from outside.  The second fetch is let in while
the first one downloads, and waits; the first one fails and opens the circuit;
and then the request of the second one is sent. -/
theorem let_in_closed_of_sent_after_failure :
    let first := "http://a.test/"
    let second := "http://b.test/"
    let config : FetchConfig := { workerPoolSize := 2, queueDepth := 1 }
    let breaker : BreakerConfig := { requestVolumeThreshold := 1 }
    let network : Network := .scripted
      [(first, [.response 0 (.plain 503 [])]),
        (second, [.response 0 (.plain 200 [])])]
    ∃ t u job,
      (ofConfig config breaker network).Reaches t ∧ t.Step (some job) u ∧
      u.fetcher.breaker.circuit = .opened ∧
      t.fetcher.requests.map (·.url) = [first] ∧
      u.fetcher.requests.map (·.url) = [first, second] ∧
      ∃ waiting number v,
        waiting.phase = .waiting number ∧
        t.fetcher.resume waiting number = some (job, u.fetcher) ∧
        (ofConfig config breaker network).Reaches v ∧
        v.fetcher.breaker.circuit = .closed ∧
        (v.fetcher.start job.url).1 = .job waiting ∧
        Keeps waiting (v.started job.url) t := by
  intro first second config breaker network
  let t₀ := ofConfig config breaker network
  let t₁ : Traffic :=
    ⟨{ t₀.fetcher with pool := t₀.fetcher.pool.takeFree }, 0, 1⟩
  let t₂ := t₁.started first
  let t₃ := t₂.started second
  let download := network.download config first
  let failing : Job := ⟨first, .ordinary, .downloading download⟩
  let waiting : Job := ⟨second, .ordinary, .waiting 0⟩
  let t₄ : Traffic := ⟨(t₃.fetcher.finish failing download).1, {waiting}, 1⟩
  let pool := (t₄.fetcher.pool.poll 0).2
  let sent := ({ t₄.fetcher with pool } : Fetcher).send second .ordinary
  let t₅ : Traffic := ⟨sent.2, {sent.1}, 1⟩
  have hheld : Goes t₀ t₁ := ⟨none, .hold (by decide)⟩
  have hfirst : Goes t₁ t₂ := ⟨_, .start first⟩
  have hsecond : Goes t₂ t₃ := ⟨_, .start second⟩
  have hjobs : t₃.jobs = failing ::ₘ {waiting} := by
    have hbegun : (t₁.fetcher.start first).1 = .job failing := rfl
    have hwaits : (t₂.fetcher.start second).1 = .job waiting := rfl
    calc
      t₃.jobs = (t₂.fetcher.start second).1.jobs +
          ((t₁.fetcher.start first).1.jobs + 0) := rfl
      _ = {waiting} + {failing} := by rw [hbegun, hwaits]; rfl
      _ = failing ::ₘ {waiting} := Multiset.add_comm _ _
  have hfailed : Goes t₃ t₄ := ⟨none, .finish hjobs rfl⟩
  have hresume : t₄.fetcher.resume waiting 0 = some sent := rfl
  have hstep : t₄.Step (some sent.1) t₅ := .resume rfl rfl hresume
  have hbusy : t₀.Reaches t₃ :=
    ((Relation.ReflTransGen.single hheld).tail hfirst).tail hsecond
  have hreaches : t₀.Reaches t₄ := hbusy.tail hfailed
  have hopened : t₅.fetcher.breaker.circuit = .opened := by decide +kernel
  exact ⟨t₄, t₅, sent.1, hreaches, hstep, hopened, by decide +kernel,
    by decide +kernel,
    let_in_closed_of_sent_opened config breaker network hreaches hstep hopened⟩

end Traffic

end Newsstand
