import Newsstand.Fetch.Fetcher
import Newsstand.Proofs.WorkerPool.Turn

/-!
# How a fetch starts

All that the start of a fetch can do, and all that its going on can do, is said
here once: what the breaker and the pool answered, what comes of the fetch, and
what is left of the fetcher.
-/

namespace Newsstand

/-- In a download the breaker and the pool have no say any more. -/
theorem Network.wasAttempted_of_download {n : Network} {config : FetchConfig}
    {url : String} {fault : FetchFault}
    (h : (n.download config url).result = .error fault) :
    fault.wasAttempted := by
  simp only [Network.download] at h
  split at h
  next =>
      cases h
      rfl
  next target _ =>
      simp only at h
      split at h
      next =>
          cases h
          rfl
      next =>
          cases h
          rfl
      next response _ =>
          simp only [Response.document, Response.text] at h
          split at h
          · split at h
            · cases h
            · cases h
              rfl
            · cases h
              rfl
          · cases h
            rfl

namespace Fetcher

/-- What comes of the fetch of a URL when it is started, and the fetcher after
that.  The breaker refuses the call; or it gives a permit, and the pool turns
the call away, lets it wait, or gives it a worker at once. -/
inductive Started (f : Fetcher) (url : String) : Beginning → Fetcher → Prop where
  | refused {breaker : Breaker} {log : Log}
      (hask : f.breaker.ask f.now = (none, breaker, log)) :
      Started f url (.over (.refused f.config.group)) { f with breaker }
  | rejected {permit : Permit} {breaker : Breaker} {log : Log}
      (hask : f.breaker.ask f.now = (some permit, breaker, log))
      (hfree : f.pool.free = 0) (hfull : f.pool.queueDepth ≤ f.pool.waiting) :
      Started f url (.over (.rejected f.config.group))
        (({ f with breaker } : Fetcher).settle permit .abandoned).1
  | waiting {permit : Permit} {breaker : Breaker} {log : Log}
      (hask : f.breaker.ask f.now = (some permit, breaker, log))
      (hfree : f.pool.free = 0) (hroom : f.pool.waiting < f.pool.queueDepth) :
      Started f url (.job ⟨url, permit, .waiting f.pool.nextNumber⟩)
        { f with breaker, pool := f.pool.enqueue }
  | sent {permit : Permit} {breaker : Breaker} {log : Log}
      (hask : f.breaker.ask f.now = (some permit, breaker, log))
      (hfree : 0 < f.pool.free) :
      Started f url
        (.job (({ f with breaker, pool := f.pool.takeFree } : Fetcher).send url
          permit).1)
        (({ f with breaker, pool := f.pool.takeFree } : Fetcher).send url
          permit).2

theorem started_start (f : Fetcher) (url : String) :
    f.Started url (f.start url).1 (f.start url).2.1 := by
  rcases hask : f.breaker.ask f.now with ⟨_ | permit, breaker, log⟩
  · simp only [Fetcher.start, hask]
    exact .refused hask
  · rcases f.pool.acquire_cases with ⟨hfree, hacquire⟩ |
      ⟨hfree, hfull, hacquire⟩ | ⟨hfree, hroom, hacquire⟩
    · simp only [Fetcher.start, hask, hacquire]
      exact .sent hask hfree
    · simp only [Fetcher.start, hask, hacquire]
      exact .rejected hask hfree hfull
    · simp only [Fetcher.start, hask, hacquire]
      exact .waiting hask hfree hroom

theorem started_of_eq {f g : Fetcher} {url : String} {beginning : Beginning}
    {log : Log} (h : f.start url = (beginning, g, log)) :
    f.Started url beginning g := by
  have hstarted := f.started_start url
  rw [h] at hstarted
  exact hstarted

/-- A fetch asks the pool for a worker once, unless the breaker refuses it. -/
theorem Started.pool {f g : Fetcher} {url : String} {beginning : Beginning}
    (h : f.Started url beginning g) :
    g.pool = f.pool ∨ g.pool = f.pool.acquire.2.1 := by
  cases h with
  | refused hask => exact Or.inl rfl
  | rejected hask hfree hfull => exact Or.inl rfl
  | waiting hask hfree hroom =>
      exact Or.inr (by rw [WorkerPool.acquire_of_room hfree hroom])
  | sent hask hfree =>
      exact Or.inr (by rw [WorkerPool.acquire_of_free hfree]; rfl)

theorem Started.url {f g : Fetcher} {url : String} {job : Job}
    (h : f.Started url (.job job) g) : job.url = url := by
  cases h with
  | waiting hask hfree hroom => rfl
  | sent hask hfree => rfl

theorem Started.config {f g : Fetcher} {url : String} {beginning : Beginning}
    (h : f.Started url beginning g) : g.config = f.config := by
  cases h <;> rfl

theorem Started.now {f g : Fetcher} {url : String} {beginning : Beginning}
    (h : f.Started url beginning g) : g.now = f.now := by
  cases h <;> rfl

/-- A fetch that starts to download does so on the network as it is. -/
theorem Started.download {f g : Fetcher} {url : String} {job : Job}
    {download : Download} (h : f.Started url (.job job) g)
    (hphase : job.phase = .downloading download) :
    download = f.network.download f.config url := by
  cases h with
  | waiting hask hfree hroom => cases hphase
  | sent hask hfree =>
      cases hphase
      rfl

/-- A waiting fetch goes on if its worker has come, and starts to download. -/
theorem resume_eq_some {f g : Fetcher} {job next : Job} {number : ℕ}
    (h : f.resume job number = some (next, g)) :
    ∃ pool, f.pool.poll number = (true, pool) ∧
      next = (({ f with pool } : Fetcher).send job.url job.permit).1 ∧
      g = (({ f with pool } : Fetcher).send job.url job.permit).2 := by
  unfold Fetcher.resume at h
  split at h
  next => cases h
  next pool hpoll =>
      cases h
      exact ⟨pool, hpoll, rfl, rfl⟩

/-! ## Fetches while no time passes -/

theorem tryFetchAt_now (f : Fetcher) (url : String) :
    f.tryFetchAt ⟨url, f.now, f.now⟩ = f.tryFetch url := by
  have hclocked : f.clocked f.now = f := rfl
  simp only [tryFetchAt, tryFetch, hclocked]
  rcases hstart : f.start url with ⟨fault | job, g, log⟩
  · rfl
  · have hnow : g.clocked f.now = g := by
      rw [← (started_of_eq hstart).now]
      rfl
    cases hphase : job.phase with
    | waiting number => simp only [hphase]
    | downloading download => simp only [hphase, hnow]

theorem fetchAt_now (f : Fetcher) (url : String) :
    f.fetchAt ⟨url, f.now, f.now⟩ = f.fetch url := by
  simp only [fetchAt, fetch, tryFetchAt_now]

end Fetcher

end Newsstand
