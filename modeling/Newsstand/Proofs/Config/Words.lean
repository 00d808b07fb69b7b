import Newsstand.Proofs.Config.Settings

/-!
# Configurations in words

Every number of a configuration that was read fits into the word that is meant
for it, in whichever way the sections are written.
-/

namespace Newsstand

open Toml (Key Value)

/-! ## What decoding preserves -/

section Preserves

variable {σ : Type} {P : σ → Prop} {fields : List (Field σ)} {s s' : σ}

/-- Whatever is put into the field, the section keeps a property. -/
def Field.Preserves (field : Field σ) (P : σ → Prop) : Prop :=
  ∀ s s' value, P s → field.put s value = .ok s' → P s'

theorem Field.preserves_of {α : Type} {name : String}
    {decode : Value → Decoded α} {set : σ → α → σ}
    (h : ∀ s a value, P s → decode value = .ok a → P (set s a)) :
    (Field.of name decode set).Preserves P := by
  intro s s' value hs hput
  obtain ⟨a, hdecode, rfl⟩ := Field.of_put_eq_ok.mp hput
  exact h s a value hs hdecode

theorem foldlM_preserves {α : Type} {f : σ → α → Decoded σ} {items : List α}
    (hstep : ∀ item ∈ items, ∀ s s', P s → f s item = .ok s' → P s')
    (hs : P s) (hfold : items.foldlM f s = .ok s') : P s' := by
  induction items generalizing s with
  | nil =>
      cases hfold
      exact hs
  | cons item items ih =>
      obtain ⟨hfirst, hrest⟩ := List.forall_mem_cons.mp hstep
      rw [List.foldlM_cons] at hfold
      cases hitem : f s item with
      | error place? => simp [hitem, bind, Except.bind] at hfold
      | ok next =>
          rw [hitem] at hfold
          exact ih hrest (hfirst s next hs hitem) hfold

/-- A section keeps what all of its fields keep. -/
theorem decodeSection_preserves (h : ∀ field ∈ fields, field.Preserves P)
    (hs : P s) {value : Value} (hok : decodeSection fields s value = .ok s') :
    P s' := by
  cases value with
  | table start? entries =>
      refine foldlM_preserves (fun entry _ s s' hs hput => ?_) hs hok
      change putEntry fields s entry = .ok s' at hput
      cases hfind : fields.find? (·.name == entry.1.text) with
      | none =>
          rw [putEntry_of_find?_eq_none hfind] at hput
          cases hput
          exact hs
      | some field =>
          have hfield := h field (List.mem_of_find?_eq_some hfind)
          exact hfield s s' _ hs ((putEntry_of_find? hfind).mp hput)
  | array start? items =>
      refine foldlM_preserves (fun p hp s s' hs hput => ?_) hs hok
      exact h p.1 (List.of_mem_zip hp).1 s s' _ hs hput
  | date start =>
      cases hok
      exact hs
  | _ => cases hok

end Preserves

/-! ## Numbers -/

/-- Every number of the section on the store is a word. -/
structure StoreConfig.InWords (c : StoreConfig) : Prop where
  maxConnections_lt : c.maxConnections < UInt32.size

/-- Every number of the section on fetching is a word. -/
structure FetchConfig.InWords (c : FetchConfig) : Prop where
  timeoutMs_lt : c.timeoutMs < UInt64.size
  workerPoolSize_lt : c.workerPoolSize < UInt64.size
  queueDepth_lt : c.queueDepth < UInt64.size
  maxBodyBytes_lt : c.maxBodyBytes < UInt64.size

/-- Every number of the section on the circuit breaker is a word, and the share
of failures an octet. -/
structure BreakerConfig.InWords (c : BreakerConfig) : Prop where
  errorThresholdPercent_lt : c.errorThresholdPercent < UInt8.size
  requestVolumeThreshold_lt : c.requestVolumeThreshold < UInt64.size
  rollingWindowMs_lt : c.rollingWindowMs < UInt64.size
  windowBuckets_lt : c.windowBuckets < UInt64.size
  sleepWindowMs_lt : c.sleepWindowMs < UInt64.size

/-- Every number of a configuration is a word. -/
structure Config.InWords (c : Config) : Prop where
  store : c.store.InWords
  fetch : c.fetch.InWords
  breaker : c.breaker.InWords

theorem decodeNumber_lt {limit n : ℕ} {value : Value}
    (h : decodeNumber limit value = .ok n) : n < limit := by
  unfold decodeNumber at h
  split at h
  next start m =>
      split at h
      next hlt =>
          cases h
          exact hlt
      next => cases h
  next => cases h

theorem StoreConfig.preserves_inWords :
    ∀ field ∈ StoreConfig.fields, field.Preserves StoreConfig.InWords := by
  simp only [fields, List.forall_mem_cons]
  refine ⟨?_, ?_, ?_, ?_, by simp⟩
  · exact Field.preserves_of fun _ _ _ hs _ => ⟨hs.maxConnections_lt⟩
  · exact Field.preserves_of fun _ _ _ hs _ => ⟨hs.maxConnections_lt⟩
  · exact Field.preserves_of fun _ _ _ hs _ => ⟨hs.maxConnections_lt⟩
  · exact Field.preserves_of fun _ _ _ _ hdecode => ⟨decodeNumber_lt hdecode⟩

theorem FetchConfig.preserves_inWords :
    ∀ field ∈ FetchConfig.fields, field.Preserves FetchConfig.InWords := by
  simp only [fields, List.forall_mem_cons]
  refine ⟨?_, ?_, ?_, ?_, ?_, ?_, by simp⟩
  · exact Field.preserves_of fun _ _ _ hs _ => { hs with }
  · exact Field.preserves_of fun _ _ _ hs hdecode =>
      { hs with timeoutMs_lt := decodeNumber_lt hdecode }
  · exact Field.preserves_of fun _ _ _ hs hdecode =>
      { hs with workerPoolSize_lt := decodeNumber_lt hdecode }
  · exact Field.preserves_of fun _ _ _ hs hdecode =>
      { hs with queueDepth_lt := decodeNumber_lt hdecode }
  · exact Field.preserves_of fun _ _ _ hs hdecode =>
      { hs with maxBodyBytes_lt := decodeNumber_lt hdecode }
  · exact Field.preserves_of fun _ _ _ hs _ => { hs with }

theorem BreakerConfig.preserves_inWords :
    ∀ field ∈ BreakerConfig.fields,
      field.Preserves BreakerConfig.InWords := by
  simp only [fields, List.forall_mem_cons]
  refine ⟨?_, ?_, ?_, ?_, ?_, by simp⟩
  · exact Field.preserves_of fun _ _ _ hs hdecode =>
      { hs with errorThresholdPercent_lt := decodeNumber_lt hdecode }
  · exact Field.preserves_of fun _ _ _ hs hdecode =>
      { hs with requestVolumeThreshold_lt := decodeNumber_lt hdecode }
  · exact Field.preserves_of fun _ _ _ hs hdecode =>
      { hs with rollingWindowMs_lt := decodeNumber_lt hdecode }
  · exact Field.preserves_of fun _ _ _ hs hdecode =>
      { hs with windowBuckets_lt := decodeNumber_lt hdecode }
  · exact Field.preserves_of fun _ _ _ hs hdecode =>
      { hs with sleepWindowMs_lt := decodeNumber_lt hdecode }

theorem Config.inWords_default : Config.InWords {} where
  store := ⟨by decide⟩
  fetch := ⟨by decide, by decide, by decide, by decide⟩
  breaker := ⟨by decide, by decide, by decide, by decide, by decide⟩

theorem Config.inWords_of_decode {entries : List (Key × Value)} {c : Config}
    (h : Config.decode entries = .ok c) : c.InWords := by
  have hdefault := Config.inWords_default
  refine decodeSection_preserves (P := Config.InWords) ?_ hdefault h
  simp only [fields, List.forall_mem_cons]
  refine ⟨?_, ?_, ?_, by simp⟩
  · refine Field.preserves_of fun _ _ _ hc hdecode => ⟨?_, hc.fetch, hc.breaker⟩
    exact decodeSection_preserves StoreConfig.preserves_inWords
      hdefault.store hdecode
  · refine Field.preserves_of fun _ _ _ hc hdecode => ⟨hc.store, ?_, hc.breaker⟩
    exact decodeSection_preserves FetchConfig.preserves_inWords
      hdefault.fetch hdecode
  · refine Field.preserves_of fun _ _ _ hc hdecode => ⟨hc.store, hc.fetch, ?_⟩
    exact decodeSection_preserves BreakerConfig.preserves_inWords
      hdefault.breaker hdecode

/-- The numbers of a configuration that was read are words. -/
theorem Config.inWords_of_read {text : String} {c : Config}
    (h : (Config.read text).1 = .ok c) : c.InWords := by
  simp only [Config.read] at h
  split at h
  next =>
      cases h
      exact inWords_default
  next =>
      split at h
      next => cases h
      next entries hread =>
          cases hdecode : Config.decode entries with
          | error place? => simp [hdecode] at h
          | ok d =>
              simp only [hdecode] at h
              cases h
              exact inWords_of_decode hdecode

end Newsstand
