import Mathlib
import Newsstand.Config.Reading
import Newsstand.Proofs.Config.Fields
import Newsstand.Proofs.Toml.Reading

/-!
# Settings of a configuration

Fifteen keys in three sections can be set.  What a text makes of each of them
depends on nothing but the value that the text gives for it.
-/

namespace Newsstand

open Toml (Key Value names)
open Toml.Value (lookup?)

/-! ## Types of settings -/

/-- The text that a value is. -/
def Toml.Value.text? : Value → Option String
  | .string _ text => some text
  | _ => none

/-- The number that a value is, if it is not negative and below `limit`. -/
def Toml.Value.number? (limit : ℕ) : Value → Option ℕ
  | .integer _ n => if 0 ≤ n ∧ n < limit then some n.toNat else none
  | _ => none

/-- The backend that a value names. -/
def Toml.Value.backend? (value : Value) : Option Backend :=
  value.text?.bind Backend.ofName?

theorem decodeText_eq_ok {value : Value} {text : String} :
    decodeText value = .ok text ↔ value.text? = some text := by
  cases value <;> simp [decodeText, Value.text?]

theorem decodeNumber_eq_ok {limit : ℕ} {value : Value} {n : ℕ} :
    decodeNumber limit value = .ok n ↔ value.number? limit = some n := by
  cases value with
  | integer start m =>
      rcases m with m | m
      · by_cases h : m < limit <;> simp [decodeNumber, Value.number?, h]
      · simp [decodeNumber, Value.number?]
  | _ => simp [decodeNumber, Value.number?]

theorem decodeBackend_eq_ok {start : ℕ} {name : String} {backend : Backend} :
    decodeBackend (.string start name) = .ok backend ↔
      (Value.string start name).backend? = some backend := by
  rw [decodeBackend, Value.backend?, Value.text?, Option.bind_some]
  cases Backend.ofName? name <;> simp

/-! ## The settings of each section -/

/-- The settings of the section on the store. -/
def StoreConfig.settings : List (Setting StoreConfig) := [
  ⟨"backend", Value.backend?, (·.backend)⟩,
  ⟨"database", Value.text?, (·.database)⟩,
  ⟨"table", Value.text?, (·.table)⟩,
  ⟨"max_connections", Value.number? UInt32.size, (·.maxConnections)⟩]

/-- The settings of the section on fetching. -/
def FetchConfig.settings : List (Setting FetchConfig) := [
  ⟨"group", Value.text?, (·.group)⟩,
  ⟨"timeout_ms", Value.number? UInt64.size, (·.timeoutMs)⟩,
  ⟨"worker_pool_size", Value.number? UInt64.size, (·.workerPoolSize)⟩,
  ⟨"queue_depth", Value.number? UInt64.size, (·.queueDepth)⟩,
  ⟨"max_body_bytes", Value.number? UInt64.size, (·.maxBodyBytes)⟩,
  ⟨"user_agent", Value.text?, (·.userAgent)⟩]

/-- The settings of the section on the circuit breaker. -/
def BreakerConfig.settings : List (Setting BreakerConfig) := [
  ⟨"error_threshold_percent", Value.number? UInt8.size,
    (·.errorThresholdPercent)⟩,
  ⟨"request_volume_threshold", Value.number? UInt64.size,
    (·.requestVolumeThreshold)⟩,
  ⟨"rolling_window_ms", Value.number? UInt64.size, (·.rollingWindowMs)⟩,
  ⟨"window_buckets", Value.number? UInt64.size, (·.windowBuckets)⟩,
  ⟨"sleep_window_ms", Value.number? UInt64.size, (·.sleepWindowMs)⟩]

theorem StoreConfig.carriesOut {entries : List (Key × Value)}
    (hbackend : ∀ entry ∈ entries, entry.1.text = "backend" →
      ∃ start name, entry.2 = .string start name) :
    CarriesOut StoreConfig.fields StoreConfig.settings entries where
  sets := by
    simp only [settings, List.forall_mem_cons]
    refine ⟨⟨_, rfl, fun entry hentry hkey => ?_⟩, ⟨_, rfl, fun _ _ _ => ?_⟩,
      ⟨_, rfl, fun _ _ _ => ?_⟩, ⟨_, rfl, fun _ _ _ => ?_⟩, by simp⟩
    · obtain ⟨start, name, hvalue⟩ := hbackend entry hentry hkey
      rw [hvalue]
      exact Setting.setBy_of (fun _ => decodeBackend_eq_ok) fun _ _ => rfl
    · exact Setting.setBy_of (fun _ => decodeText_eq_ok) fun _ _ => rfl
    · exact Setting.setBy_of (fun _ => decodeText_eq_ok) fun _ _ => rfl
    · exact Setting.setBy_of (fun _ => decodeNumber_eq_ok) fun _ _ => rfl
  known := by simp [fields, settings]
  keeps := by simp [fields, settings, Setting.keptBy_of]

theorem FetchConfig.carriesOut (entries : List (Key × Value)) :
    CarriesOut FetchConfig.fields FetchConfig.settings entries where
  sets := by
    simp only [settings, List.forall_mem_cons]
    refine ⟨⟨_, rfl, fun _ _ _ => ?_⟩, ⟨_, rfl, fun _ _ _ => ?_⟩,
      ⟨_, rfl, fun _ _ _ => ?_⟩, ⟨_, rfl, fun _ _ _ => ?_⟩,
      ⟨_, rfl, fun _ _ _ => ?_⟩, ⟨_, rfl, fun _ _ _ => ?_⟩, by simp⟩
    · exact Setting.setBy_of (fun _ => decodeText_eq_ok) fun _ _ => rfl
    · exact Setting.setBy_of (fun _ => decodeNumber_eq_ok) fun _ _ => rfl
    · exact Setting.setBy_of (fun _ => decodeNumber_eq_ok) fun _ _ => rfl
    · exact Setting.setBy_of (fun _ => decodeNumber_eq_ok) fun _ _ => rfl
    · exact Setting.setBy_of (fun _ => decodeNumber_eq_ok) fun _ _ => rfl
    · exact Setting.setBy_of (fun _ => decodeText_eq_ok) fun _ _ => rfl
  known := by simp [fields, settings]
  keeps := by simp [fields, settings, Setting.keptBy_of]

theorem BreakerConfig.carriesOut (entries : List (Key × Value)) :
    CarriesOut BreakerConfig.fields BreakerConfig.settings entries where
  sets := by
    simp only [settings, List.forall_mem_cons]
    refine ⟨⟨_, rfl, fun _ _ _ => ?_⟩, ⟨_, rfl, fun _ _ _ => ?_⟩,
      ⟨_, rfl, fun _ _ _ => ?_⟩, ⟨_, rfl, fun _ _ _ => ?_⟩,
      ⟨_, rfl, fun _ _ _ => ?_⟩, by simp⟩
    all_goals exact Setting.setBy_of (fun _ => decodeNumber_eq_ok) fun _ _ => rfl
  known := by simp [fields, settings]
  keeps := by simp [fields, settings, Setting.keptBy_of]

/-! ## The sections of a configuration -/

/-- A section as a setting of the whole configuration: its datum is the decoded
section. -/
def wholeSection {σ : Type} (name : String) (fields : List (Field σ))
    (initial : σ) (part : Config → σ) : Setting Config :=
  ⟨name, fun value => (decodeSection fields initial value).toOption, part⟩

/-- The sections as settings of the whole configuration. -/
def Config.sectionSettings : List (Setting Config) := [
  wholeSection "store" StoreConfig.fields {} (·.store),
  wholeSection "fetch" FetchConfig.fields {} (·.fetch),
  wholeSection "breaker" BreakerConfig.fields {} (·.breaker)]

theorem toOption_eq_some {α : Type} {d : Decoded α} {a : α} :
    d = .ok a ↔ d.toOption = some a := by
  cases d <;> simp [Except.toOption]

theorem Config.carriesOut (entries : List (Key × Value)) :
    CarriesOut Config.fields Config.sectionSettings entries where
  sets := by
    simp only [sectionSettings, List.forall_mem_cons]
    refine ⟨⟨_, rfl, fun _ _ _ => ?_⟩, ⟨_, rfl, fun _ _ _ => ?_⟩,
      ⟨_, rfl, fun _ _ _ => ?_⟩, by simp⟩
    all_goals exact Setting.setBy_of (fun _ => toOption_eq_some) fun _ _ => rfl
  known := by simp [fields, sectionSettings, wholeSection]
  keeps := by simp [fields, sectionSettings, wholeSection, Setting.keptBy_of]

section Sections

variable {entries : List (Key × Value)}

/-- The entries of the section of a name, of which there are none if the section
is missing. -/
def sectionEntries (entries : List (Key × Value)) (name : String) :
    List (Key × Value) :=
  match lookup? entries name with
  | some (.table _ inside) => inside
  | _ => []

theorem nodup_sectionEntries (h : (Value.table none entries).Distinct)
    (name : String) : (names (sectionEntries entries name)).Nodup := by
  rw [sectionEntries]
  split
  next start? inside hlookup =>
      obtain ⟨key, hmem⟩ := mem_of_lookup? hlookup
      exact (h.of_mem hmem).nodup
  next => exact List.nodup_nil

/-- The section of a name, where it is a table or missing, can be decoded if and
only if what it gives for its settings fits, and then they follow what it
gives. -/
theorem section_fieldwise {σ : Type} {fields : List (Field σ)}
    {settings : List (Setting σ)} (initial : σ) {name : String}
    (hdistinct : (Value.table none entries).Distinct)
    (htable : ∀ value, lookup? entries name = some value →
      ∃ start? inside, value = .table start? inside)
    (h : CarriesOut fields settings (sectionEntries entries name)) :
    ((∀ value, lookup? entries name = some value →
        (decodeSection fields initial value).toOption.isSome) ↔
      Fits settings (sectionEntries entries name)) ∧
    (Fits settings (sectionEntries entries name) →
      Follows settings (sectionEntries entries name) initial
        (((lookup? entries name).bind fun value =>
          (decodeSection fields initial value).toOption).getD initial)) := by
  cases hlookup : lookup? entries name with
  | none =>
      have hnone : sectionEntries entries name = [] := by
        rw [sectionEntries, hlookup]
      rw [hnone]
      exact ⟨by simp [Fits, lookup?], fun _ _ _ => rfl⟩
  | some value =>
      obtain ⟨start?, inside, rfl⟩ := htable value hlookup
      have hinside : sectionEntries entries name = inside := by
        rw [sectionEntries, hlookup]
      have hnodup := nodup_sectionEntries hdistinct name
      rw [hinside] at h hnodup ⊢
      obtain ⟨hfits, hfollows⟩ :=
        decodeSection_fieldwise hnodup h initial start?
      simp only [Option.some.injEq, forall_eq', Option.bind_some]
      cases hdecode : decodeSection fields initial (.table start? inside) with
      | error place? =>
          have hnot : ¬Fits settings inside := by simp [← hfits, hdecode]
          exact ⟨by simp [Except.toOption, hnot], fun hall => absurd hall hnot⟩
      | ok s =>
          have hall : Fits settings inside := hfits.mp ⟨s, hdecode⟩
          exact ⟨iff_of_true rfl hall, fun _ => hfollows s hdecode⟩

end Sections

/-! ## The whole configuration -/

theorem Config.read_eq_ok_iff {text : String} {entries : List (Key × Value)}
    {c : Config} (hread : Toml.readEntries text.toList = .ok entries) :
    (Config.read text).1 = .ok c ↔ Config.decode entries = .ok c := by
  simp only [Config.read]
  split
  next hblank =>
      obtain rfl := Toml.readEntries_of_blank (by simpa using hblank) hread
      simp [show Config.decode [] = .ok {} from rfl]
  next =>
      rw [hread]
      cases hdecode : Config.decode entries <;> simp [hdecode]

/-- A text whose sections are tables, and whose backend, if there is one, is a
text, is a configuration if and only if every value that it gives for one of the
fifteen settings is of the right type and in range.  Then each setting is what
the text gives for it, and the default if the text gives nothing.  What else the
text has, and in which order, is left open. -/
theorem Config.read_fieldwise {text : String} {entries : List (Key × Value)}
    (hread : Toml.readEntries text.toList = .ok entries)
    (htables : ∀ name ∈ ["store", "fetch", "breaker"], ∀ value,
      lookup? entries name = some value →
        ∃ start? inside, value = .table start? inside)
    (hbackend : ∀ value,
      lookup? (sectionEntries entries "store") "backend" = some value →
        ∃ start name, value = .string start name) :
    ((∃ c, (Config.read text).1 = .ok c) ↔
      Fits StoreConfig.settings (sectionEntries entries "store") ∧
      Fits FetchConfig.settings (sectionEntries entries "fetch") ∧
      Fits BreakerConfig.settings (sectionEntries entries "breaker")) ∧
    ∀ c, (Config.read text).1 = .ok c →
      Follows StoreConfig.settings (sectionEntries entries "store") {} c.store ∧
      Follows FetchConfig.settings (sectionEntries entries "fetch") {} c.fetch ∧
      Follows BreakerConfig.settings (sectionEntries entries "breaker") {}
        c.breaker := by
  have hdistinct := Toml.readEntries_distinct hread
  have hcarriesOut : CarriesOut StoreConfig.fields StoreConfig.settings
      (sectionEntries entries "store") := by
    refine StoreConfig.carriesOut fun entry hentry hkey => hbackend entry.2 ?_
    have hnodup := nodup_sectionEntries hdistinct "store"
    exact hkey ▸ lookup?_of_mem hnodup hentry
  have hstore := section_fieldwise {} hdistinct
    (htables "store" (by simp)) hcarriesOut
  have hfetch := section_fieldwise {} hdistinct
    (htables "fetch" (by simp)) (FetchConfig.carriesOut _)
  have hbreaker := section_fieldwise {} hdistinct
    (htables "breaker" (by simp)) (BreakerConfig.carriesOut _)
  obtain ⟨hfits, hfollows⟩ := decodeSection_fieldwise hdistinct.nodup
    (Config.carriesOut entries) {} (some 0)
  have hall : Fits Config.sectionSettings entries ↔
      Fits StoreConfig.settings (sectionEntries entries "store") ∧
      Fits FetchConfig.settings (sectionEntries entries "fetch") ∧
      Fits BreakerConfig.settings (sectionEntries entries "breaker") := by
    rw [← hstore.1, ← hfetch.1, ← hbreaker.1]
    simp [Fits, Config.sectionSettings, wholeSection]
  simp only [Config.read_eq_ok_iff hread]
  refine ⟨hfits.trans hall, fun c hc => ?_⟩
  obtain ⟨hstoreFits, hfetchFits, hbreakerFits⟩ := hall.mp (hfits.mp ⟨c, hc⟩)
  have hparts := hfollows c hc
  simp only [Follows, Config.sectionSettings, wholeSection,
    List.forall_mem_cons] at hparts
  obtain ⟨hstorePart, hfetchPart, hbreakerPart, -⟩ := hparts
  rw [hstorePart, hfetchPart, hbreakerPart]
  exact ⟨hstore.2 hstoreFits, hfetch.2 hfetchFits, hbreaker.2 hbreakerFits⟩

/-- A known key in each of two sections, an unknown key and an unknown
section. -/
theorem Config.read_fieldwise_unknown :
    let text := "[x]\n[breaker]\nerror_threshold_percent = 255\n" ++
      "[store]\ny = []\nbackend = 'durable'"
    let inside := [(⟨"y", 52⟩, .array (some 56) []),
      (⟨"backend", 59⟩, .string 69 "durable")]
    let entries := [(⟨"x", 1⟩, .table (some 0) []),
      (⟨"breaker", 5⟩, .table (some 4) [
        (⟨"error_threshold_percent", 14⟩, .integer 40 255)]),
      (⟨"store", 45⟩, .table (some 44) inside)]
    Toml.readEntries text.toList = .ok entries ∧
      sectionEntries entries "store" = inside ∧
      ∃ c, (Config.read text).1 = .ok c ∧ c.store.backend = .durable ∧
        c.store.table = "subscriptions" ∧ c.fetch.queueDepth = 20 ∧
        c.breaker.errorThresholdPercent = 255 ∧ c.breaker.windowBuckets = 10 := by
  intro text inside entries
  have hread : Toml.readEntries text.toList = .ok entries := by
    simp only [text, entries, inside]
    cbv
  have hbackend : (Value.string 69 "durable").backend? = some .durable := by
    decide
  have hpercent : (Value.integer 40 255).number? UInt8.size = some 255 := by
    decide
  obtain ⟨hfits, hfollows⟩ := Config.read_fieldwise hread
    (by simp [entries, lookup?]) (by simp [entries, inside, lookup?, sectionEntries])
  obtain ⟨c, hc⟩ := hfits.mpr (by
    simp [Fits, entries, inside, lookup?, sectionEntries, StoreConfig.settings,
      FetchConfig.settings, BreakerConfig.settings, hbackend, hpercent])
  obtain ⟨hstore, hfetch, hbreaker⟩ := hfollows c hc
  simp [Follows, entries, inside, lookup?, sectionEntries,
    StoreConfig.settings, FetchConfig.settings, BreakerConfig.settings,
    hbackend, hpercent] at hstore hfetch hbreaker
  exact ⟨hread, by simp [entries, lookup?, sectionEntries], c, hc, hstore.1,
    hstore.2.2.1, hfetch.2.2.2.1, hbreaker.1, hbreaker.2.2.2.1⟩

end Newsstand
