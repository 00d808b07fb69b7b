import Newsstand.Proofs.Aggregator.Rest
import Newsstand.Proofs.Fetch.Traffic

/-!
# The traffic of a session

Whatever the steps of a session do to its fetcher is traffic: single fetches,
the fetches of lists in whichever order they go on, workers that are taken and
given back, and the clock, which goes on between steps and within them.  What
holds of all traffic that can be reached from a new fetcher therefore holds
within all steps of all sessions.
-/

namespace Newsstand

namespace Sweep

/-- The traffic of a sweep while `held` workers are held from outside. -/
def traffic (s : Sweep) (held : ℕ) : Traffic :=
  ⟨s.fetcher, jobsIn s.rooms, held⟩

variable {s : Sweep}

theorem traffic_handOut (s : Sweep) (held : ℕ) :
    s.handOut.traffic held = s.traffic held := by
  rw [traffic, jobsIn_handOut]
  rfl

theorem reaches_startNext (s : Sweep) (held : ℕ) :
    (s.traffic held).Reaches (s.startNext.traffic held) := by
  unfold startNext
  split
  next => exact Relation.ReflTransGen.refl
  next url pending hpending =>
      split
      next => exact Relation.ReflTransGen.refl
      next =>
          apply Relation.ReflTransGen.single
          refine ⟨(s.fetcher.start url).1.sent?, ?_⟩
          have hstep := Traffic.Step.start (t := s.traffic held) url
          split
          next job fetcher log heq =>
              simp only [Traffic.started, traffic, heq] at hstep ⊢
              rw [jobsIn_append_going]
              exact hstep
          next fault fetcher log heq =>
              simp only [Traffic.started, traffic, heq, Beginning.jobs,
                Multiset.zero_add] at hstep
              rw [traffic_handOut]
              simp only [traffic, heq, endOf, jobsIn_append_done]
              exact hstep

theorem reaches_advance (s : Sweep) (held i : ℕ) :
    (s.traffic held).Reaches ((s.advance i).traffic held) := by
  unfold advance
  split
  next job hroom =>
      obtain ⟨others, hjobs, hgoing, hdone⟩ := exists_jobsIn_set hroom
      split
      next number hphase =>
          split
          next => exact Relation.ReflTransGen.refl
          next next fetcher hresume =>
              have hstep := Traffic.Step.resume (t := s.traffic held) hjobs
                hphase hresume
              apply Relation.ReflTransGen.single
              refine ⟨some next, ?_⟩
              simp only [traffic, hgoing]
              exact hstep
      next download hphase =>
          have hstep := Traffic.Step.finish (t := s.traffic held) hjobs hphase
          apply Relation.ReflTransGen.single
          refine ⟨none, ?_⟩
          rw [traffic_handOut]
          simp only [traffic, endOf, hdone]
          exact hstep
  next => exact Relation.ReflTransGen.refl

theorem reaches_move (s : Sweep) (held : ℕ) (m : Move) :
    (s.traffic held).Reaches ((s.move m).traffic held) := by
  cases m with
  | start => exact s.reaches_startNext held
  | advance i => exact s.reaches_advance held i

theorem reaches_run (s : Sweep) (held fuel : ℕ) :
    (s.traffic held).Reaches ((s.run fuel).traffic held) := by
  obtain ⟨ms, hms⟩ := exists_run_eq_moves fuel s
  rw [hms]
  clear hms
  induction ms generalizing s with
  | nil => exact Relation.ReflTransGen.refl
  | cons m ms ih => exact (s.reaches_move held m).trans (ih (s.move m))

theorem reaches_timed (s : Sweep) (held : ℕ) {ms : List (ℕ × Move)}
    (hreadings : ∀ m ∈ ms, m.1 < UInt64.size) :
    (s.traffic held).Reaches ((s.timed ms).traffic held) := by
  induction ms generalizing s with
  | nil => exact Relation.ReflTransGen.refl
  | cons m ms ih =>
      obtain ⟨hfirst, hrest⟩ := List.forall_mem_cons.mp hreadings
      have hclocked := (s.traffic held).reaches_clocked (Or.inr hfirst)
      exact (hclocked.trans ((s.clocked m.1).reaches_move held m.2)).trans
        (ih _ hrest)

end Sweep

namespace Fetcher

variable {f g : Fetcher} {url : String} {log : Log}

/-- A fetch that comes to an end while nothing else goes on is traffic. -/
theorem reaches_tryFetchAt {call : Call} {result : Except FetchFault String}
    (held : ℕ) (hcall : call.TimedFrom f.now)
    (h : f.tryFetchAt call = (some result, g, log)) :
    Traffic.Reaches ⟨f, 0, held⟩ ⟨g, 0, held⟩ := by
  let t : Traffic := ⟨f.clocked call.asked, 0, held⟩
  have hclocked : Traffic.Reaches ⟨f, 0, held⟩ t :=
    Traffic.reaches_clocked ⟨f, 0, held⟩ hcall.asked
  have hstart := Traffic.Step.start (t := t) call.url
  unfold Fetcher.tryFetchAt at h
  split at h
  next fault next startLog heq =>
      simp only [t, Traffic.started, heq, Beginning.jobs, Multiset.zero_add]
        at hstart
      cases h
      exact hclocked.tail ⟨_, hstart⟩
  next job next startLog heq =>
      have hnow : next.now = call.asked := (started_of_eq heq).now
      simp only [t, Traffic.started, heq, Beginning.jobs, Multiset.add_zero]
        at hstart
      split at h
      next => cases h
      next download hphase =>
          cases h
          have htime := Traffic.reaches_clocked ⟨next, {job}, held⟩
            (hnow.symm ▸ hcall.told)
          have hjobs : ({job} : Multiset Job) = job ::ₘ 0 := rfl
          have hfinish := Traffic.Step.finish
            (t := ⟨next.clocked call.told, {job}, held⟩) hjobs hphase
          exact ((hclocked.tail ⟨_, hstart⟩).trans htime).tail ⟨_, hfinish⟩

theorem reaches_fetchAt {call : Call} {body : String} (held : ℕ)
    (hcall : call.TimedFrom f.now)
    (h : f.fetchAt call = (some body, g, log)) :
    Traffic.Reaches ⟨f, 0, held⟩ ⟨g, 0, held⟩ := by
  unfold Fetcher.fetchAt at h
  split at h
  next => cases h
  next result next fetchLog heq =>
      cases h
      exact reaches_tryFetchAt held hcall heq

theorem reaches_tryFetch {result : Except FetchFault String} (held : ℕ)
    (h : f.tryFetch url = (some result, g, log)) :
    Traffic.Reaches ⟨f, 0, held⟩ ⟨g, 0, held⟩ := by
  rw [← tryFetchAt_now] at h
  exact reaches_tryFetchAt held (Call.timedFrom_self url f.now) h

theorem reaches_fetch {body : String} (held : ℕ)
    (h : f.fetch url = (some body, g, log)) :
    Traffic.Reaches ⟨f, 0, held⟩ ⟨g, 0, held⟩ := by
  rw [← fetchAt_now] at h
  exact reaches_fetchAt held (Call.timedFrom_self url f.now) h

end Fetcher

namespace Session

/-- The traffic of a session between its steps. -/
def traffic (s : Session) : Traffic :=
  ⟨s.aggregator.fetcher, 0, s.held⟩

variable {s t : Session}

/-- When a sweep has come to its end, none of its fetches goes on. -/
theorem reaches_swept (s : Session) {urls : List String} {sweep : Sweep}
    (h : ((Sweep.ofUrls s.aggregator.fetcher urls).traffic s.held).Reaches
      (sweep.traffic s.held)) (hover : sweep.isOver) :
    s.traffic.Reaches (s.withFetcher sweep.fetcher).traffic := by
  simp only [Sweep.isOver, Bool.and_eq_true, List.isEmpty_iff] at hover
  simp only [Sweep.traffic, hover.2] at h
  exact h

theorem reaches_hold (s : Session) : s.traffic.Reaches s.hold.2.1.traffic := by
  obtain ⟨hfree, hacquire⟩ | ⟨-, -, hacquire⟩ | ⟨hfree, -, hacquire⟩ :=
    s.aggregator.fetcher.pool.acquire_cases
  · simp only [Session.hold, hacquire]
    exact Relation.ReflTransGen.single ⟨none, .hold hfree⟩
  · simp only [Session.hold, hacquire]
    exact Relation.ReflTransGen.refl
  · simp only [Session.hold, hacquire]
    exact Relation.ReflTransGen.single ⟨none, .passBy hfree⟩

theorem traffic_importOutline (s : Session) (user : String)
    (file : FileRead) :
    (s.step (.importOutline user file)).2.1.traffic = s.traffic := by
  have hsame := s.aggregator.importOutline_fetcher user file
  have htraffic := congrArg (fun f => (⟨f, 0, s.held⟩ : Traffic)) hsame
  simp only [Session.step]
  split
  next summary aggregator log heq =>
      rw [heq] at htraffic
      exact htraffic
  next fault aggregator log heq =>
      rw [heq] at htraffic
      exact htraffic

theorem reaches_step (s : Session) (step : Step)
    (hreply : (s.step step).1.comes) :
    s.traffic.Reaches (s.step step).2.1.traffic := by
  cases step with
  | subscribe user url =>
      simp only [Session.step, traffic, Aggregator.subscribe_fetcher]
      exact Relation.ReflTransGen.refl
  | unsubscribe user url =>
      simp only [Session.step, traffic, Aggregator.unsubscribe_fetcher]
      exact Relation.ReflTransGen.refl
  | urls user =>
      simp only [Session.step]
      split <;> exact Relation.ReflTransGen.refl
  | list user =>
      simp only [Session.step] at hreply ⊢
      split
      next subscriptions aggregator log heq =>
          obtain ⟨urls, -, hover, rfl⟩ := Aggregator.list_eq_some heq
          exact s.reaches_swept (Sweep.reaches_run _ s.held _) hover
      next aggregator log heq => simp [heq, Reply.comes] at hreply
      next fault aggregator log heq =>
          obtain ⟨-, rfl⟩ := Aggregator.list_eq_error heq
          exact Relation.ReflTransGen.refl
  | fetch url =>
      simp only [Session.step] at hreply ⊢
      split
      next body fetcher log heq => exact Fetcher.reaches_fetch s.held heq
      next fetcher log heq => simp [heq, Reply.comes] at hreply
  | tryFetch url =>
      simp only [Session.step] at hreply ⊢
      split
      next body fetcher log heq => exact Fetcher.reaches_tryFetch s.held heq
      next fault fetcher log heq => exact Fetcher.reaches_tryFetch s.held heq
      next fetcher log heq => simp [heq, Reply.comes] at hreply
  | importOutline user file =>
      rw [traffic_importOutline]
      exact Relation.ReflTransGen.refl
  | health => exact Relation.ReflTransGen.refl
  | advance ms =>
      simp only [Session.step]
      split
      · exact Relation.ReflTransGen.single ⟨none, .wait ms⟩
      · exact Relation.ReflTransGen.refl
  | close => exact Relation.ReflTransGen.refl
  | hold => exact s.reaches_hold
  | release =>
      by_cases hnone : s.held = 0
      · simp only [Session.step, if_pos hnone]
        exact Relation.ReflTransGen.refl
      · simp only [Session.step, if_neg hnone]
        have hheld : s.traffic.held = (s.held - 1) + 1 := by
          simp only [traffic]
          omega
        exact Relation.ReflTransGen.single ⟨none, .release hheld⟩

/-- The traffic of a session that has just started is that of a new fetcher. -/
theorem traffic_of_start {storage : Storage} {network : Network}
    {config : Config} {byHand : Bool} {log : Log}
    (hstart : start storage network config byHand = (.ok s, log)) :
    s.traffic = .ofConfig config.fetch config.breaker network := by
  unfold start Aggregator.setUp at hstart
  split at hstart
  next => cases hstart
  next aggregator next setUpLog heq =>
      cases hstart
      split at heq
      next => cases heq
      next =>
          split at heq
          next => cases heq
          next =>
              cases heq
              rfl

theorem Completes.reaches {step : Step} {reply : Reply}
    (h : s.Completes step reply t) : s.traffic.Reaches t.traffic := by
  cases h with
  | step step hreply => exact s.reaches_step step hreply
  | @fetched call body fetcher log hreadings hfetch =>
      exact Fetcher.reaches_fetchAt s.held
        (Call.timedFrom_of_readings hreadings _) hfetch
  | @tried call result fetcher log hreadings hfetch =>
      exact Fetcher.reaches_tryFetchAt s.held
        (Call.timedFrom_of_readings hreadings _) hfetch
  | @listed user moves subscriptions aggregator log hreadings hlist =>
      obtain ⟨urls, -, hover, rfl⟩ := Aggregator.listTimed_eq_some hlist
      exact s.reaches_swept (Sweep.reaches_timed _ s.held hreadings) hover

theorem Leads.reaches {past : List (Step × Reply)} {n : ℕ}
    (h : s.Leads past n t) : s.traffic.Reaches t.traffic := by
  induction h with
  | start => exact Relation.ReflTransGen.refl
  | next hpast hstep ih => exact ih.trans hstep.reaches
  | passed hpast hnow ih =>
      exact ih.trans (Traffic.reaches_clocked _ (Or.inr hnow))

/-- Whatever steps of a session are completed, its traffic can be reached from
that of a new fetcher. -/
theorem reaches_of_leads {storage : Storage} {network : Network}
    {config : Config} {byHand : Bool} {log : Log}
    (hstart : start storage network config byHand = (.ok s, log))
    {past : List (Step × Reply)} {n : ℕ} (h : s.Leads past n t) :
    (Traffic.ofConfig config.fetch config.breaker network).Reaches
      t.traffic := by
  rw [← traffic_of_start hstart]
  exact h.reaches

end Session

end Newsstand
