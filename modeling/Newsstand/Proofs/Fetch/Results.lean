import Newsstand.Proofs.Fetch.Chronicle

/-!
# Where results come from

A fetch that is not refused or turned away ends with the result of a download.
That download asked for the URL of the same fetch, on the network as it was when
it started, whichever other fetches have ended since.
-/

namespace Newsstand.Sweep.Chronicle

/-- What a fetch of a URL can come to: the breaker refuses it, or the pool turns
it away, or it gives what a download of this URL gives on one of some
networks. -/
inductive Possible (config : FetchConfig) (networks : Network → Prop)
    (url : String) : Except FetchFault String → Prop where
  | refused : Possible config networks url (.error (.refused config.group))
  | rejected : Possible config networks url (.error (.rejected config.group))
  | downloaded {n : Network} (hn : networks n) :
      Possible config networks url (n.download config url).result

/-- All downloads of a chronicle, those that go on and those that have ended,
were started on one of some networks, each one for the URL of its fetch. -/
structure Genuine (config : FetchConfig) (networks : Network → Prop)
    (c : Chronicle) : Prop where
  config_eq : c.sweep.fetcher.config = config
  network : networks c.sweep.fetcher.network
  going : ∀ job, .going job ∈ c.sweep.rooms → ∀ download,
    job.phase = .downloading download →
    ∃ n, networks n ∧ download = n.download config job.url
  ended : ∀ ending ∈ c.ended,
    Possible config networks ending.1.1 ending.1.2

variable {config : FetchConfig} {networks : Network → Prop} {c : Chronicle}

theorem Genuine.started {g : Fetcher} {url : String} {beginning : Beginning}
    (h : c.Genuine config networks)
    (hstarted : c.sweep.fetcher.Started url beginning g) :
    g.config = config ∧
      (∀ job, beginning = .job job → ∀ download,
        job.phase = .downloading download →
        ∃ n, networks n ∧ download = n.download config job.url) ∧
      ∀ fault, beginning = .over fault →
        Possible config networks url (.error fault) := by
  refine ⟨hstarted.config.trans h.config_eq, ?_, ?_⟩
  · rintro job rfl download hphase
    refine ⟨_, h.network, ?_⟩
    rw [hstarted.download hphase, h.config_eq, hstarted.url]
  · rintro fault rfl
    rw [← h.config_eq]
    cases hstarted with
    | refused hask => exact .refused
    | rejected hask hfree hfull => exact .rejected

theorem Genuine.start (h : c.Genuine config networks)
    (hnetwork : networks (c.move .start).sweep.fetcher.network) :
    (c.move .start).Genuine config networks := by
  cases hpending : c.sweep.pending with
  | nil =>
      simp only [Chronicle.move, Sweep.move, startNext, happens, hpending,
        List.append_nil]
      exact ⟨h.config_eq, h.network, h.going, h.ended⟩
  | cons url pending =>
      by_cases hroom : c.sweep.hasRoom
      · simp only [Chronicle.move, Sweep.move, startNext, happens, hpending,
          hroom, Bool.not_true, Bool.false_eq_true, if_false] at hnetwork ⊢
        rcases hstart : c.sweep.fetcher.start url with ⟨_ | job, fetcher, log⟩
        next fault =>
            obtain ⟨hconfig, -, hover⟩ :=
              h.started (Fetcher.started_of_eq hstart)
            rw [hstart] at hnetwork
            refine ⟨hconfig, hnetwork, ?_, ?_⟩
            · intro job hjob
              have hmem := (List.dropWhile_sublist _).subset hjob
              rcases List.mem_append.mp hmem with hold | hnew
              · exact h.going job hold
              · cases List.mem_singleton.mp hnew
            · intro ending hending
              rcases List.mem_append.mp hending with hold | hnew
              · exact h.ended ending hold
              · obtain rfl := List.mem_singleton.mp hnew
                exact hover fault rfl
        next =>
            obtain ⟨hconfig, hgoing, -⟩ :=
              h.started (Fetcher.started_of_eq hstart)
            rw [hstart] at hnetwork
            refine ⟨hconfig, hnetwork, ?_, ?_⟩
            · intro other hother
              rcases List.mem_append.mp hother with hold | hnew
              · exact h.going other hold
              · obtain rfl := Room.going.inj (List.mem_singleton.mp hnew)
                exact hgoing other rfl
            · rw [List.append_nil]
              exact h.ended
      · simp only [Chronicle.move, Sweep.move, startNext, happens, hpending,
          hroom, Bool.not_false, if_true, List.append_nil]
        exact ⟨h.config_eq, h.network, h.going, h.ended⟩

theorem Genuine.advance (h : c.Genuine config networks) (i : ℕ)
    (hnetwork : networks (c.move (.advance i)).sweep.fetcher.network) :
    (c.move (.advance i)).Genuine config networks := by
  rcases hroom : c.sweep.rooms[i]? with _ | job | ⟨url, body⟩
  · simp only [Chronicle.move, Sweep.move, Sweep.advance, happens, hroom,
      List.append_nil]
    exact ⟨h.config_eq, h.network, h.going, h.ended⟩
  · have hmem := List.mem_of_getElem? hroom
    cases hphase : job.phase with
    | waiting number =>
        rcases hresume : c.sweep.fetcher.resume job number with
          _ | ⟨next, fetcher⟩
        · simp only [Chronicle.move, Sweep.move, Sweep.advance, happens, hroom,
            hphase, hresume, List.append_nil]
          exact ⟨h.config_eq, h.network, h.going, h.ended⟩
        · simp only [Chronicle.move, Sweep.move, Sweep.advance, happens, hroom,
            hphase, hresume, List.append_nil] at hnetwork ⊢
          obtain ⟨pool, -, rfl, rfl⟩ := Fetcher.resume_eq_some hresume
          refine ⟨h.config_eq, hnetwork, ?_, h.ended⟩
          intro other hother download hdownload
          rcases List.mem_or_eq_of_mem_set hother with hold | hnew
          · exact h.going other hold download hdownload
          · obtain rfl := Room.going.inj hnew
            cases hdownload
            rw [← h.config_eq]
            exact ⟨_, h.network, rfl⟩
    | downloading download =>
        simp only [Chronicle.move, Sweep.move, Sweep.advance, happens, hroom,
          hphase] at hnetwork ⊢
        refine ⟨h.config_eq, hnetwork, ?_, ?_⟩
        · intro other hother
          have hset := (List.dropWhile_sublist _).subset hother
          rcases List.mem_or_eq_of_mem_set hset with hold | hnew
          · exact h.going other hold
          · cases hnew
        · intro ending hending
          rcases List.mem_append.mp hending with hold | hnew
          · exact h.ended ending hold
          · obtain rfl := List.mem_singleton.mp hnew
            obtain ⟨n, hn, rfl⟩ := h.going job hmem download hphase
            exact .downloaded hn
  · simp only [Chronicle.move, Sweep.move, Sweep.advance, happens, hroom,
      List.append_nil]
    exact ⟨h.config_eq, h.network, h.going, h.ended⟩

theorem Genuine.clocked (h : c.Genuine config networks) (now : ℕ) :
    (c.clocked now).Genuine config networks :=
  ⟨h.config_eq, h.network, h.going, h.ended⟩

theorem Genuine.timed (h : c.Genuine config networks) {ms : List (ℕ × Move)}
    (hnetworks : ∀ earlier, earlier <+: ms →
      networks (c.timed earlier).sweep.fetcher.network) :
    (c.timed ms).Genuine config networks := by
  induction ms generalizing c with
  | nil => exact h
  | cons m ms ih =>
      obtain ⟨now, m⟩ := m
      have hnext : networks ((c.clocked now).move m).sweep.fetcher.network :=
        hnetworks [(now, m)] (List.prefix_append [(now, m)] ms)
      apply ih
      · cases m with
        | start => exact (h.clocked now).start hnext
        | advance i => exact (h.clocked now).advance i hnext
      · intro earlier hearlier
        exact hnetworks ((now, m) :: earlier)
          ((List.prefix_cons_inj (now, m)).mpr hearlier)

/-- The networks that a sweep meets on its way. -/
def MetBy (f : Fetcher) (urls : List String) (ms : List (ℕ × Move))
    (n : Network) : Prop :=
  ∃ earlier, earlier <+: ms ∧
    n = ((ofUrls f urls).timed earlier).sweep.fetcher.network

theorem genuine_timed (f : Fetcher) (urls : List String)
    (ms : List (ℕ × Move)) :
    ((ofUrls f urls).timed ms).Genuine f.config (MetBy f urls ms) := by
  apply Genuine.timed
  · refine ⟨rfl, ⟨[], List.nil_prefix, rfl⟩, ?_, ?_⟩
    · intro job hjob
      exact absurd hjob List.not_mem_nil
    · exact List.forall_mem_nil _
  · intro earlier hearlier
    exact ⟨earlier, hearlier, rfl⟩

end Newsstand.Sweep.Chronicle
