import Newsstand.Proofs.Config.Amendments

/-!
# What decoding passes over

Entries stand at the top of a configuration or in one of its sections.  Decoding
passes over an entry if the configuration is the same without it and with any
other value in its place.  That is so exactly for the keys that are unknown where
they stand.
-/

namespace Newsstand

open Toml (Key Value names)
open Toml.Value (lookup?)

/-- Where an entry of a configuration stands: at the top, or in a section. -/
inductive Spot where
  | top (name : String)
  | inside (table name : String)
  deriving DecidableEq

namespace Spot

/-- The keys that lead to a spot. -/
def path : Spot → List String
  | .top name => [name]
  | .inside table name => [table, name]

/-- Whether an entry of the text stands there: any one at the top, or one in a
section. -/
def IsTaken (entries : List (Key × Value)) : Spot → Prop
  | .top name => name ∈ names entries
  | .inside table name =>
      table ∈ ["store", "fetch", "breaker"] ∧
        name ∈ names (sectionEntries entries table)

/-- Whether the key is known there. -/
def isKnown : Spot → Bool
  | .top name => (Config.sections.lookup name).isSome
  | .inside table name =>
      ((Config.sections.lookup table).getD []).contains name

/-- The entries with another value there, or with none. -/
def amend (value? : Option Value) (entries : List (Key × Value)) :
    Spot → List (Key × Value)
  | .top name => Newsstand.amend name value? entries
  | .inside table name =>
      match lookup? entries table with
      | some (.table start? within) =>
          Newsstand.amend table
            (some (.table start? (Newsstand.amend name value? within))) entries
      | _ => entries

end Spot

/-- The entries make the same configuration whatever stands in a spot. -/
def PassesOver (c : Config) (entries : List (Key × Value)) (spot : Spot) :
    Prop :=
  ∀ value?, Config.decode (spot.amend value? entries) = .ok c

/-- The sections of a text are tables. -/
def SectionsAreTables (entries : List (Key × Value)) : Prop :=
  ∀ table ∈ ["store", "fetch", "breaker"], ∀ value,
    lookup? entries table = some value →
      ∃ start? within, value = .table start? within

section Passing

variable {c : Config} {entries : List (Key × Value)} {spot : Spot}
  {table name : String} {value : Value} {value? : Option Value}

theorem sectionEntries_of_lookup? {start? : Option ℕ}
    {within : List (Key × Value)}
    (h : lookup? entries table = some (.table start? within)) :
    sectionEntries entries table = within := by
  rw [sectionEntries, h]

theorem mem_names_of_lookup? (h : lookup? entries name = some value) :
    name ∈ names entries := by
  by_contra hnot
  rw [lookup?_of_notMem hnot] at h
  cases h

theorem isKnown_top_iff :
    (Spot.top name).isKnown ↔ name ∈ Config.fields.map (·.name) := by
  rw [Spot.isKnown, List.lookup_isSome_iff]
  simp [Config.sections, Config.fields]

theorem isKnown_inside_iff {σ : Type} {fields : List (Field σ)}
    (h : Config.sections.lookup table = some (fields.map (·.name))) :
    (Spot.inside table name).isKnown ↔ name ∈ fields.map (·.name) := by
  rw [Spot.isKnown, h, Option.getD_some, List.contains_iff_mem]

/-- An entry in a section stands in a table. -/
theorem exists_table_of_isTaken (htables : SectionsAreTables entries)
    (htaken : (Spot.inside table name).IsTaken entries) :
    ∃ start? within, lookup? entries table = some (.table start? within) ∧
      name ∈ names within := by
  obtain ⟨htable, hname⟩ := htaken
  cases hlookup : lookup? entries table with
  | none => simp [sectionEntries, hlookup, names] at hname
  | some value =>
      obtain ⟨start?, within, rfl⟩ := htables table htable value hlookup
      rw [sectionEntries_of_lookup? hlookup] at hname
      exact ⟨start?, within, rfl, hname⟩

/-- Decoding passes over unknown keys. -/
theorem passesOver_of_not_isKnown (hok : Config.decode entries = .ok c)
    (hdistinct : (Value.table none entries).Distinct)
    (htables : SectionsAreTables entries) (htaken : spot.IsTaken entries)
    (h : ¬spot.isKnown) : PassesOver c entries spot := by
  intro value?
  cases spot with
  | top name =>
      rw [isKnown_top_iff] at h
      rw [← hok]
      exact decodeSection_amend_of_notMem h
  | inside table name =>
      obtain ⟨σ, fields, settings, initial, part, set, -, -, hfield, hkeys⟩ :=
        Config.exists_section htaken.1
      rw [isKnown_inside_iff hkeys] at h
      obtain ⟨start?, within, hlookup, -⟩ :=
        exists_table_of_isTaken htables htaken
      simp only [Spot.amend, hlookup]
      rw [← hok]
      refine decodeSection_amend_of_put_eq hfield fun entry hentry hname c => ?_
      have hvalue : entry.2 = .table start? within := by
        have hfound := lookup?_of_mem hdistinct.nodup hentry
        rw [hname, hlookup] at hfound
        exact (Option.some.inj hfound).symm
      simp only [Field.of, hvalue, decodeSection_amend_of_notMem h]

/-- Of a known key some value makes another configuration. -/
theorem exists_amend_of_isKnown (hok : Config.decode entries = .ok c)
    (hdistinct : (Value.table none entries).Distinct)
    (htables : SectionsAreTables entries) (htaken : spot.IsTaken entries)
    (h : spot.isKnown) :
    ∃ value c', c' ≠ c ∧
      Config.decode (spot.amend (some value) entries) = .ok c' := by
  cases spot with
  | top name =>
      obtain ⟨value, c', hc', hne⟩ := Config.adjustable.exists_amend
        hdistinct.nodup hok htaken (isKnown_top_iff.mp h)
      exact ⟨value, c', hne, hc'⟩
  | inside table name =>
      obtain ⟨σ, fields, settings, initial, part, set, hadjustable, hwhole, -,
        hkeys⟩ := Config.exists_section htaken.1
      obtain ⟨start?, within, hlookup, hname⟩ :=
        exists_table_of_isTaken htables htaken
      obtain ⟨key, hmem⟩ := mem_of_lookup? hlookup
      have hsection : decodeSection fields initial (.table start? within) =
          .ok (part c) :=
        toOption_eq_some.mpr (Config.adjustable.reads_of_lookup?
          hdistinct.nodup hok hwhole hlookup)
      obtain ⟨value, s, hs, hne⟩ := hadjustable.exists_amend
        (hdistinct.of_mem hmem).nodup hsection hname
        ((isKnown_inside_iff hkeys).mp h)
      obtain ⟨c', hc', hpart⟩ := Config.adjustable.decode_amend
        hdistinct.nodup hok hwhole (mem_names_of_lookup? hlookup)
        (toOption_eq_some.mp hs)
      refine ⟨value, c', fun heq => hne ?_, ?_⟩
      · rw [← heq]
        exact hpart.symm
      · simp only [Spot.amend, hlookup]
        exact hc'

/-- Decoding passes over an entry exactly if its key is unknown. -/
theorem passesOver_iff (hok : Config.decode entries = .ok c)
    (hdistinct : (Value.table none entries).Distinct)
    (htables : SectionsAreTables entries) (htaken : spot.IsTaken entries) :
    PassesOver c entries spot ↔ ¬spot.isKnown := by
  refine ⟨fun hpasses hknown => ?_,
    passesOver_of_not_isKnown hok hdistinct htables htaken⟩
  obtain ⟨value, c', hne, hc'⟩ :=
    exists_amend_of_isKnown hok hdistinct htables htaken hknown
  rw [hpasses (some value)] at hc'
  exact hne (Except.ok.inj hc').symm

end Passing

end Newsstand
