import Newsstand.Aggregator.Group
import Newsstand.Proofs.Breaker.RingBuffer
import Newsstand.Proofs.Breaker.Settings
import Newsstand.Proofs.Config.Words

/-!
# Groups of configurations

A group is made as a configuration says, with at least one permit and one place.
From above only the share of failures is limited: a number of workers or of
slices that a machine cannot have is accepted, and the group is not made.  Where
it is made, it serves as the fetcher of the aggregator does, and comparing its
numbers goes wrong only where too many calls have been counted.
-/

namespace Newsstand

open Ledger

namespace Group

variable {fetch : FetchConfig} {breaker : BreakerConfig} {g : Group}

/-! ## Making a group -/

/-- The group has the permits of a pool whose workers are all free and the
limits of a breaker, and its ring buffer keeps the window. -/
structure StandsFor (g : Group) (pool : WorkerPool) (b : Breaker) : Prop where
  pool_name_eq : g.name = pool.name
  breaker_name_eq : g.name = b.name
  permits_eq : g.permits = pool.size
  free_eq : g.permits = pool.free
  queueDepth_eq : g.queueDepth = pool.queueDepth
  errorPercent_eq : g.errorPercent = b.errorPercent
  volume_eq : g.volume = b.volume
  sleepMs_eq : g.sleepMs = b.sleepMs
  mirrors : g.buffer.Mirrors b.window

/-- The group stands for the pool and the breaker that a configuration makes. -/
def Follows (g : Group) (fetch : FetchConfig) (breaker : BreakerConfig) :
    Prop :=
  g.StandsFor (.create fetch.group fetch.workerPoolSize fetch.queueDepth)
    (.ofConfig fetch.group breaker)

/-- A semaphore can have the permits exactly if there are not more workers. -/
theorem semaphore_eq (size : ℕ) :
    semaphore (max 1 size) =
      if size ≤ WorkerPool.maxSize then .ok (max 1 size)
      else .error .permits := by
  have hpos : 1 ≤ WorkerPool.maxSize := by decide
  have hiff : max 1 size ≤ WorkerPool.maxSize ↔ size ≤ WorkerPool.maxSize := by
    omega
  simp only [semaphore, hiff]

/-- There is room for the places exactly if there are not more slices. -/
theorem octets_le_iff (count : ℕ) :
    placeSize * max 1 count ≤ maxOctets ↔ count ≤ Window.maxCount := by
  have hmax : Window.maxCount = maxOctets / placeSize := rfl
  have hpos : 1 ≤ Window.maxCount := by decide
  rw [mul_comm, ← Nat.le_div_iff_mul_le (by decide), ← hmax]
  omega

theorem vector_eq (count : ℕ) :
    vector (max 1 count) =
      if count ≤ Window.maxCount then .ok (placeSize * max 1 count)
      else .error .octets := by
  simp only [vector, octets_le_iff]

/-- Every way in which making a group can end. -/
theorem build_cases (fetch : FetchConfig) (breaker : BreakerConfig) :
    (WorkerPool.maxSize < fetch.workerPoolSize ∧
      build fetch breaker = .error .permits) ∨
    (fetch.workerPoolSize ≤ WorkerPool.maxSize ∧
      Window.maxCount < breaker.windowBuckets ∧
      build fetch breaker = .error .octets) ∨
    (fetch.workerPoolSize ≤ WorkerPool.maxSize ∧
      breaker.windowBuckets ≤ Window.maxCount ∧
      ∃ g, build fetch breaker = .ok g ∧ g.Follows fetch breaker) := by
  by_cases hworkers : fetch.workerPoolSize ≤ WorkerPool.maxSize
  · have hpermits := semaphore_eq fetch.workerPoolSize
    rw [if_pos hworkers] at hpermits
    have hvector := vector_eq breaker.windowBuckets
    by_cases hslices : breaker.windowBuckets ≤ Window.maxCount
    · right; right
      rw [if_pos hslices] at hvector
      obtain ⟨buffer, hbuffer, hmirrors⟩ := RingBuffer.mirrors_ofSpan
        breaker.rollingWindowMs breaker.windowBuckets
      have hbuild : build fetch breaker = .ok ⟨fetch.group,
          max 1 fetch.workerPoolSize, fetch.queueDepth,
          min 100 breaker.errorThresholdPercent,
          max 1 breaker.requestVolumeThreshold, breaker.sleepWindowMs,
          buffer⟩ := by
        simp only [build, makeBuffer, hpermits, hvector, hbuffer, bind,
          Except.bind, Except.mapError]
        rfl
      exact ⟨hworkers, hslices, _, hbuild, rfl, rfl, rfl, rfl, rfl, rfl, rfl,
        rfl, hmirrors⟩
    · right; left
      rw [if_neg hslices] at hvector
      refine ⟨hworkers, by omega, ?_⟩
      simp only [build, makeBuffer, hpermits, hvector, bind, Except.bind]
  · left
    have hpermits := semaphore_eq fetch.workerPoolSize
    rw [if_neg hworkers] at hpermits
    refine ⟨by omega, ?_⟩
    simp only [build, hpermits, bind, Except.bind]

theorem follows_of_build (h : build fetch breaker = .ok g) :
    fetch.workerPoolSize ≤ WorkerPool.maxSize ∧
      breaker.windowBuckets ≤ Window.maxCount ∧ g.Follows fetch breaker := by
  rcases build_cases fetch breaker with
    ⟨-, herror⟩ | ⟨-, -, herror⟩ | ⟨hworkers, hslices, made, hok, hfollows⟩
  · rw [herror] at h
    cases h
  · rw [herror] at h
    cases h
  · rw [hok] at h
    obtain rfl := Except.ok.inj h
    exact ⟨hworkers, hslices, hfollows⟩

theorem exists_build_iff :
    (∃ g, build fetch breaker = .ok g) ↔
      fetch.workerPoolSize ≤ WorkerPool.maxSize ∧
        breaker.windowBuckets ≤ Window.maxCount := by
  constructor
  · rintro ⟨g, hok⟩
    obtain ⟨hworkers, hslices, -⟩ := follows_of_build hok
    exact ⟨hworkers, hslices⟩
  · rintro ⟨hworkers, hslices⟩
    rcases build_cases fetch breaker with
      ⟨hmany, -⟩ | ⟨-, hmany, -⟩ | ⟨-, -, g, hok, -⟩
    · omega
    · omega
    · exact ⟨g, hok⟩

/-! ## What a group is -/

/-- A machine can have all that a group has, and nothing is missing. -/
structure IsSound (g : Group) : Prop where
  permits_pos : 1 ≤ g.permits
  permits_le : g.permits ≤ WorkerPool.maxSize
  places_pos : 1 ≤ g.buffer.places.length
  octets_le : placeSize * g.buffer.places.length ≤ maxOctets
  width_pos : 1 ≤ g.buffer.width
  width_lt : g.buffer.width < UInt64.size
  errorPercent_le : g.errorPercent ≤ 100
  volume_pos : 1 ≤ g.volume
  volume_lt : g.volume < UInt64.size
  queueDepth_lt : g.queueDepth < UInt64.size
  sleepMs_lt : g.sleepMs < UInt64.size

theorem isSound_of_build (hfetch : fetch.InWords) (hbreaker : breaker.InWords)
    (h : build fetch breaker = .ok g) : g.IsSound := by
  obtain ⟨hworkers, hslices, hfollows⟩ := follows_of_build h
  have hpermits : g.permits = max 1 fetch.workerPoolSize :=
    hfollows.permits_eq
  have hpercent : g.errorPercent = min 100 breaker.errorThresholdPercent :=
    hfollows.errorPercent_eq
  have hvolume : g.volume = max 1 breaker.requestVolumeThreshold :=
    hfollows.volume_eq
  have hlength : g.buffer.places.length = max 1 breaker.windowBuckets :=
    hfollows.mirrors.length_eq
  have hwidth : g.buffer.width = max 1
      (breaker.rollingWindowMs / max 1 breaker.windowBuckets) :=
    hfollows.mirrors.width_eq
  have hmax : 1 ≤ WorkerPool.maxSize := by decide
  have hsize : 1 < UInt64.size := by decide
  constructor
  case permits_pos => omega
  case permits_le => omega
  case places_pos => omega
  case octets_le => rwa [hlength, octets_le_iff]
  case width_pos => omega
  case width_lt =>
    have hshare : breaker.rollingWindowMs / max 1 breaker.windowBuckets ≤
        breaker.rollingWindowMs := Nat.div_le_self _ _
    have hspan := hbreaker.rollingWindowMs_lt
    omega
  case errorPercent_le => omega
  case volume_pos => omega
  case volume_lt =>
    have hthreshold := hbreaker.requestVolumeThreshold_lt
    omega
  case queueDepth_lt => exact hfollows.queueDepth_eq ▸ hfetch.queueDepth_lt
  case sleepMs_lt => exact hfollows.sleepMs_eq ▸ hbreaker.sleepWindowMs_lt

/-! ## Comparing its numbers -/

theorem product_eq_ok_or (a b : ℕ) :
    product a b = .ok (a * b) ∨
      product a b = .error .count ∧ UInt64.size ≤ a * b := by
  unfold product
  split
  next => exact Or.inl rfl
  next hlarge => exact Or.inr ⟨rfl, by omega⟩

/-- Comparing goes wrong only where there are too many calls for a percentage of
them. -/
theorem judge_cases (hpercent : g.errorPercent ≤ 100) {total failures : ℕ}
    (hle : failures ≤ total) :
    g.judge total failures = .ok (decide (g.volume ≤ total ∧
      g.errorPercent * total ≤ failures * 100)) ∨
    g.judge total failures = .error .count ∧ UInt64.size ≤ 100 * total := by
  by_cases hfew : total < g.volume
  · left
    have hnot : ¬(g.volume ≤ total ∧
        g.errorPercent * total ≤ failures * 100) := by omega
    rw [judge, if_pos hfew, decide_eq_false hnot]
    rfl
  · have henough : g.volume ≤ total := by omega
    have hlimit : g.errorPercent * total ≤ 100 * total :=
      Nat.mul_le_mul_right total hpercent
    simp only [judge, if_neg hfew, henough, true_and]
    rcases product_eq_ok_or failures 100 with hshare | ⟨hshare, hlarge⟩
    · rcases product_eq_ok_or g.errorPercent total with hok | ⟨herror, hlarge⟩
      · left
        rw [hshare, hok]
        rfl
      · right
        rw [hshare, herror]
        exact ⟨rfl, by omega⟩
    · right
      rw [hshare]
      exact ⟨rfl, by omega⟩

theorem failures_le_total (w : Window) (now : ℕ) :
    w.failures now ≤ w.total now := by
  have hsum := w.sumOver_total now w.slices
  have htotal : w.total now = w.sumOver now Slice.total w.slices := rfl
  have hfailures : w.failures now = w.sumOver now Slice.failures w.slices := rfl
  omega

section Judging

variable {r : RingBuffer} {w : Window} {pool : WorkerPool} {b : Breaker}
  {now : ℕ} {deeds : List Window.Deed}

/-- Deeds leave a ring buffer that counts what a window does after them, and no
more calls than were recorded. -/
theorem totals_after_deeds (h : r.Mirrors w) (hnew : w.slices = [])
    (hcount : w.count < 2 ^ 63) (hnow : now < 2 ^ 63)
    (htimes : (Window.times deeds ++ [now]).Pairwise (· ≤ ·)) :
    let after := deeds.foldl Window.act w
    after.total now ≤ (Window.times deeds).length ∧
      ((∃ r', deeds.foldlM RingBuffer.act r = .ok r' ∧
          r'.totals now = .ok (after.total now, after.failures now)) ∨
        (deeds.foldlM RingBuffer.act r >>= fun r' => r'.totals now) =
            .error .count ∧
          UInt64.size ≤ (Window.times deeds).length) := by
  intro after
  have htimes' : (0 :: (Window.times deeds ++ [now])).Pairwise (· ≤ ·) :=
    List.pairwise_cons.mpr ⟨fun time _ => Nat.zero_le time, htimes⟩
  have hempty := Window.keeps_nil hnew 0
  have hkeeps : after.Keeps now (noted deeds) :=
    RingBuffer.keeps_foldl_act hempty deeds htimes'
  have hlength : (noted deeds).length ≤ (Window.times deeds).length :=
    (RingBuffer.length_foldl_note_le deeds []).trans_eq (Nat.zero_add _)
  have htotal : after.total now ≤ (noted deeds).length :=
    (hkeeps.total_eq now le_rfl).trans_le (List.length_filter_le _ _)
  refine ⟨htotal.trans hlength, ?_⟩
  have hrun := h.foldlM_act hempty hnow deeds htimes'
  rw [List.length_nil, Nat.zero_add] at hrun
  rcases hrun with ⟨r', hr', hmirrors⟩ | ⟨herror, hfull⟩
  · have hsame : after.count = w.count := Window.foldl_act_count deeds w
    rcases hmirrors.totals hkeeps (hsame ▸ hcount) hnow with
      htotals | ⟨herror, hfull⟩
    · exact Or.inl ⟨r', hr', htotals⟩
    · right
      rw [hr']
      exact ⟨herror, hfull.trans hlength⟩
  · right
    rw [herror]
    exact ⟨rfl, hfull⟩

/-- A new group judges as the breaker does for which it stands, whatever has
been counted on a clock that does not go back. -/
theorem StandsFor.judgeAfter (h : g.StandsFor pool b)
    (hpercent : g.errorPercent ≤ 100) (hnew : b.window.slices = [])
    (hcount : b.window.count < 2 ^ 63) (hnow : now < 2 ^ 63)
    (htimes : (Window.times deeds ++ [now]).Pairwise (· ≤ ·)) :
    let w := deeds.foldl Window.act b.window
    g.judgeAfter deeds now = .ok ({ b with window := w }.exceeds now) ∨
      g.judgeAfter deeds now = .error .count ∧
        UInt64.size ≤ 100 * (Window.times deeds).length := by
  intro w
  obtain ⟨htotal, ⟨buffer, hbuffer, htotals⟩ | ⟨herror, hfull⟩⟩ :=
    totals_after_deeds h.mirrors hnew hcount hnow htimes
  · have hjudge : g.judgeAfter deeds now =
        g.judge (w.total now) (w.failures now) := by
      simp only [Group.judgeAfter, hbuffer, bind, Except.bind, htotals, w]
    rw [hjudge]
    refine (judge_cases hpercent (failures_le_total w now)).imp
      (fun hok => ?_) (And.imp_right fun hlarge => ?_)
    · rw [hok, h.volume_eq, h.errorPercent_eq, Bool.decide_and]
      rfl
    · exact hlarge.trans (Nat.mul_le_mul_left 100 htotal)
  · right
    have hjudge : g.judgeAfter deeds now =
        (deeds.foldlM RingBuffer.act g.buffer >>= fun r => r.totals now) >>=
          fun totals => g.judge totals.1 totals.2 := by
      rw [bind_assoc]
      rfl
    rw [hjudge, herror]
    exact ⟨rfl, by omega⟩

end Judging

end Group

/-! ## Groups of accepted configurations -/

namespace Aggregator

/-- An aggregator whose store can be opened is set up if what the configuration
says about fetching is right. -/
theorem setUp_eq {storage t : Storage} {network : Network} {config : Config}
    {store : Store} {log : Log}
    (h : storage.openStore config.store = (.ok store, t, log)) :
    (setUp storage network config).1 = (checkFetching config).map fun _ =>
      ⟨t, store, .ofConfig config.fetch config.breaker network⟩ := by
  simp only [setUp, h]
  cases checkFetching config <;> rfl

theorem checkFetching_eq_ok_iff {config : Config} :
    checkFetching config = .ok () ↔
      (∃ g, Group.build config.fetch config.breaker = .ok g) ∧
        isAgentName config.fetch.userAgent := by
  rw [Group.exists_build_iff, checkFetching]
  split_ifs <;> simp_all

theorem exists_setUp_iff {storage : Storage} (network : Network)
    {config : Config} {store : Store}
    (hopen : (storage.openStore config.store).1 = .ok store)
    (hagent : isAgentName config.fetch.userAgent) :
    (∃ a, (setUp storage network config).1 = .ok a) ↔
      ∃ g, Group.build config.fetch config.breaker = .ok g := by
  have hset : (setUp storage network config).1 =
      (checkFetching config).map fun _ =>
        ⟨(storage.openStore config.store).2.1, store,
          .ofConfig config.fetch config.breaker network⟩ :=
    setUp_eq (Prod.ext hopen rfl)
  have hcheck := @checkFetching_eq_ok_iff config
  rw [hset]
  cases hfetching : checkFetching config with
  | ok =>
      exact iff_of_true ⟨_, rfl⟩ (hcheck.mp hfetching).1
  | error fault =>
      refine iff_of_false nofun fun hbuild => ?_
      rw [hcheck.mpr ⟨hbuild, hagent⟩] at hfetching
      cases hfetching

end Aggregator

/-- A group can be made as an accepted configuration says exactly if there are
not more workers than a semaphore has permits and not more slices than a vector
has places; reading sets no limit to either.  Where it cannot be made, no
aggregator is set up.  Every group that is made is sound, stands for the pool
and the breaker that the aggregator fetches with, and judges as this breaker
does: nothing is divided by zero, and a product outgrows a word only where a
hundred times the calls do. -/
theorem Group.build_of_read {text : String} {c : Config}
    (hok : (Config.read text).1 = .ok c) :
    ((∃ g, build c.fetch c.breaker = .ok g) ↔
      c.fetch.workerPoolSize ≤ WorkerPool.maxSize ∧
        c.breaker.windowBuckets ≤ Window.maxCount) ∧
    (∀ storage network store, (storage.openStore c.store).1 = .ok store →
      isAgentName c.fetch.userAgent →
        ((∃ a, (Aggregator.setUp storage network c).1 = .ok a) ↔
          ∃ g, build c.fetch c.breaker = .ok g)) ∧
    ∀ g, build c.fetch c.breaker = .ok g →
      let pool := WorkerPool.create c.fetch.group c.fetch.workerPoolSize
        c.fetch.queueDepth
      let b := Breaker.ofConfig c.fetch.group c.breaker
      g.IsSound ∧ g.StandsFor pool b ∧
      (∀ total failures, failures ≤ total →
        g.judge total failures =
            .ok (decide (c.breaker.Alarming total failures)) ∨
          g.judge total failures = .error .count ∧
            UInt64.size ≤ 100 * total) ∧
      ∀ deeds now, now < 2 ^ 63 →
        (Window.times deeds ++ [now]).Pairwise (· ≤ ·) →
          let w := deeds.foldl Window.act b.window
          g.judgeAfter deeds now = .ok ({ b with window := w }.exceeds now) ∨
            g.judgeAfter deeds now = .error .count ∧
              UInt64.size ≤ 100 * (Window.times deeds).length := by
  have hwords := Config.inWords_of_read hok
  refine ⟨exists_build_iff, fun storage network store =>
    Aggregator.exists_setUp_iff network, fun g hg => ?_⟩
  intro pool b
  have hsound := isSound_of_build hwords.fetch hwords.breaker hg
  obtain ⟨-, hslices, hfollows⟩ := follows_of_build hg
  refine ⟨hsound, hfollows, fun total failures hle => ?_,
    fun deeds now hnow htimes => ?_⟩
  · have hjudge := judge_cases hsound.errorPercent_le hle
    rwa [hfollows.volume_eq, hfollows.errorPercent_eq] at hjudge
  · have hcount : max 1 c.breaker.windowBuckets < 2 ^ 63 := by
      have hmax : Window.maxCount < 2 ^ 63 := by decide
      omega
    exact hfollows.judgeAfter hsound.errorPercent_le rfl hcount hnow htimes

/-- The largest pool, one worker more, and as many slices as a number of a text
can say. -/
theorem Group.build_of_read_at_limits :
    let largest := "[fetch]\nworker_pool_size = 2305843009213693951"
    let larger := "[fetch]\nworker_pool_size = 2305843009213693952"
    let finest := "[breaker]\nwindow_buckets = 9223372036854775807"
    (∃ c g, (Config.read largest).1 = .ok c ∧
      build c.fetch c.breaker = .ok g ∧ g.IsSound ∧
      g.judgeAfter (List.replicate 20 (.record 0 false)) 0 = .ok true) ∧
    (∃ c, (Config.read larger).1 = .ok c ∧
      ¬∃ g, build c.fetch c.breaker = .ok g) ∧
    ∃ c, (Config.read finest).1 = .ok c ∧
      ¬∃ g, build c.fetch c.breaker = .ok g := by
  intro largest larger finest
  have hlargest : (Config.read largest).1 =
      .ok { fetch := { workerPoolSize := 2305843009213693951 } } := by
    decide +kernel
  have hlarger : (Config.read larger).1 =
      .ok { fetch := { workerPoolSize := 2305843009213693952 } } := by
    decide +kernel
  have hfinest : (Config.read finest).1 =
      .ok { breaker := { windowBuckets := 9223372036854775807 } } := by
    decide +kernel
  obtain ⟨hbuild, -, hmade⟩ := Group.build_of_read hlargest
  obtain ⟨g, hg⟩ := hbuild.mpr (by decide)
  obtain ⟨hsound, hstands, -, hjudge⟩ := hmade g hg
  refine ⟨⟨_, g, hlargest, hg, hsound, ?_⟩, ⟨_, hlarger, ?_⟩, _, hfinest, ?_⟩
  · rcases hjudge (List.replicate 20 (.record 0 false)) 0 (by decide)
      (by decide) with hok | ⟨-, hfull⟩
    · exact hok
    · exact absurd hfull (by decide)
  · rw [(Group.build_of_read hlarger).1]
    decide
  · rw [(Group.build_of_read hfinest).1]
    decide

end Newsstand
