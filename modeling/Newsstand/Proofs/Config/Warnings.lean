import Newsstand.Proofs.Config.Places
import Newsstand.Proofs.Config.Spots

/-!
# Warnings on what is passed over

Reading a configuration warns about entries by name.  What it warns about is
passed over, and what is passed over it warns about, unless it takes a table for
a date.
-/

namespace Newsstand

open Toml (Key Value names)
open Toml.Value (lookup?)

/-! ## Names in order -/

section InOrder

variable {texts : List String} {name : String}

@[simp] theorem mem_inOrder : name ∈ inOrder texts ↔ name ∈ texts :=
  List.mem_mergeSort

/-- Distinct names come out in strict order. -/
theorem pairwise_inOrder (h : texts.Nodup) :
    (inOrder texts).Pairwise (· < ·) := by
  have hsorted : (inOrder texts).Pairwise fun a b => !decide (b < a) := by
    refine List.pairwise_mergeSort (fun a b c hab hbc => ?_) (fun a b => ?_) _
    · simp only [Bool.not_eq_true', decide_eq_false_iff_not, not_lt] at hab hbc ⊢
      exact hab.trans hbc
    · simp only [Bool.or_eq_true, Bool.not_eq_true', decide_eq_false_iff_not,
        not_lt]
      exact le_total a b
  have hnodup : (inOrder texts).Nodup :=
    (List.mergeSort_perm texts _).nodup_iff.mpr h
  refine hsorted.imp₂ (fun a b hle hne => ?_) hnodup
  simp only [Bool.not_eq_true', decide_eq_false_iff_not, not_lt] at hle
  exact lt_of_le_of_ne hle hne

end InOrder

/-! ## What is warned about -/

/-- The warning about an entry. -/
def Spot.warning : Spot → LogEvent
  | .top name => unknownSection name
  | .inside table name => unknownKey table name

/-- The keys in a section, unless it stands for a date. -/
def keysSeen (entries : List (Key × Value)) (table : String) : List String :=
  ((lookup? entries table).map tableKeys).getD []

/-- The entries that are warned about at the entry of a name. -/
def warnedAt (entries : List (Key × Value)) (name : String) : List Spot :=
  match Config.sections.lookup name with
  | none => [.top name]
  | some keys =>
      ((inOrder (keysSeen entries name)).filter (!keys.contains ·)).map
        (.inside name)

/-- The entries that are warned about. -/
def warned (entries : List (Key × Value)) : List Spot :=
  if entriesHold entries then
    (inOrder (names entries)).flatMap (warnedAt entries)
  else []

/-- The warnings see an entry: every table that stands for a date holds the text
of one, and the section that the entry is in does not stand for a date. -/
def Spot.IsSeen (entries : List (Key × Value)) (spot : Spot) : Prop :=
  entriesHold entries ∧
    ∀ table name, spot = .inside table name →
      (names (sectionEntries entries table)).head? ≠ some dateKey

section Warned

variable {entries : List (Key × Value)} {table name other : String}
  {spot : Spot}

theorem warnings_eq :
    Config.warnings entries = (warned entries).map Spot.warning := by
  have hat (name : String) :
      entryWarnings entries name = (warnedAt entries name).map Spot.warning := by
    unfold entryWarnings warnedAt keysSeen
    cases Config.sections.lookup name with
    | none => rfl
    | some keys =>
        cases lookup? entries name with
        | none => simp [inOrder]
        | some value =>
            rw [List.map_map]
            rfl
  unfold Config.warnings warned
  split
  · rw [List.map_flatMap]
    exact List.flatMap_congr fun name _ => hat name
  · rfl

theorem level_warning (spot : Spot) : spot.warning.level = .warn := by
  cases spot <;> rfl

theorem isSome_lookup_sections :
    (Config.sections.lookup name).isSome ↔
      name ∈ ["store", "fetch", "breaker"] := by
  rw [List.lookup_isSome_iff]
  simp [Config.sections]

/-- Keys in a section are seen unless the first one stands for a date. -/
theorem keysSeen_eq :
    keysSeen entries table =
      if (names (sectionEntries entries table)).head? = some dateKey then []
      else names (sectionEntries entries table) := by
  unfold keysSeen sectionEntries
  cases lookup? entries table with
  | none => rfl
  | some value =>
      cases value with
      | table start? within =>
          cases within with
          | nil => rfl
          | cons entry within => simp [tableKeys, names]
      | _ => rfl

theorem mem_keysSeen :
    name ∈ keysSeen entries table ↔
      name ∈ names (sectionEntries entries table) ∧
        (names (sectionEntries entries table)).head? ≠ some dateKey := by
  rw [keysSeen_eq]
  split <;> simp_all

theorem nodup_keysSeen (h : (Value.table none entries).Distinct)
    (table : String) : (keysSeen entries table).Nodup := by
  rw [keysSeen_eq]
  split
  · exact List.nodup_nil
  · exact nodup_sectionEntries h table

theorem mem_warnedAt_top :
    .top other ∈ warnedAt entries name ↔
      other = name ∧ ¬(Spot.top name).isKnown := by
  rw [Spot.isKnown, warnedAt]
  cases hlookup : Config.sections.lookup name with
  | none => simp
  | some keys => simp

theorem mem_warnedAt_inside :
    .inside table other ∈ warnedAt entries name ↔
      table = name ∧ table ∈ ["store", "fetch", "breaker"] ∧
        other ∈ keysSeen entries table ∧
        ¬(Spot.inside table other).isKnown := by
  rw [← isSome_lookup_sections]
  unfold warnedAt Spot.isKnown
  constructor
  · intro h
    cases hkeys : Config.sections.lookup name with
    | none => simp [hkeys] at h
    | some keys =>
        rw [hkeys] at h
        obtain ⟨key, hmem, heq⟩ := List.mem_map.mp h
        obtain ⟨rfl, rfl⟩ := Spot.inside.inj heq
        simpa [hkeys] using hmem
  · rintro ⟨rfl, hsome, hseen, hunknown⟩
    obtain ⟨keys, hkeys⟩ := Option.isSome_iff_exists.mp hsome
    simp only [hkeys]
    exact List.mem_map_of_mem (by simpa [hkeys, hseen] using hunknown)

/-- What is warned about is what is taken, unknown and seen. -/
theorem mem_warned_iff :
    spot ∈ warned entries ↔
      spot.IsTaken entries ∧ ¬spot.isKnown ∧ spot.IsSeen entries := by
  unfold warned Spot.IsSeen
  by_cases hhold : entriesHold entries
  · simp only [hhold, if_true, true_and, List.mem_flatMap, mem_inOrder]
    cases spot with
    | top name =>
        simp [mem_warnedAt_top, Spot.IsTaken]
    | inside table name =>
        simp only [mem_warnedAt_inside, mem_keysSeen, Spot.IsTaken,
          Spot.inside.injEq]
        constructor
        · rintro ⟨-, -, -, htable, ⟨hname, hdate⟩, hunknown⟩
          refine ⟨⟨htable, hname⟩, hunknown, ?_⟩
          rintro _ _ ⟨rfl, rfl⟩
          exact hdate
        · rintro ⟨⟨htable, hname⟩, hunknown, hdate⟩
          have hseen := hdate _ _ ⟨rfl, rfl⟩
          refine ⟨table, ?_, rfl, htable, ⟨hname, hseen⟩, hunknown⟩
          by_contra hnot
          simp [sectionEntries, lookup?_of_notMem hnot, names] at hname
  · simp [hhold]

theorem head?_path_of_mem_warnedAt (h : spot ∈ warnedAt entries name) :
    ∃ rest, spot.path = name :: rest := by
  cases spot with
  | top other =>
      obtain ⟨rfl, -⟩ := mem_warnedAt_top.mp h
      exact ⟨[], rfl⟩
  | inside table other =>
      obtain ⟨rfl, -⟩ := mem_warnedAt_inside.mp h
      exact ⟨[other], rfl⟩

/-- Each warning comes once, and in the order of the keys. -/
theorem pairwise_warned (h : (Value.table none entries).Distinct) :
    (warned entries).Pairwise (·.path < ·.path) := by
  unfold warned
  split
  · refine List.pairwise_flatMap.mpr ⟨fun name _ => ?_, ?_⟩
    · unfold warnedAt
      cases Config.sections.lookup name with
      | none => exact List.pairwise_singleton _ _
      | some keys =>
          have hkeys := (pairwise_inOrder (nodup_keysSeen h name)).filter
            (!keys.contains ·)
          refine List.pairwise_map.mpr (hkeys.imp fun {a b} hlt => ?_)
          simpa [Spot.path, List.cons_lt_cons_iff] using hlt
    · refine (pairwise_inOrder h.nodup).imp fun {a b} hlt x hx y hy => ?_
      obtain ⟨xs, hxs⟩ := head?_path_of_mem_warnedAt hx
      obtain ⟨ys, hys⟩ := head?_path_of_mem_warnedAt hy
      rw [hxs, hys]
      exact List.cons_lt_cons_iff.mpr (Or.inl hlt)
  · exact List.Pairwise.nil

end Warned

/-! ## Reading -/

/-- A text says the entries, wherever it has them. -/
def Says (text : String) (entries : List (Key × Value)) : Prop :=
  ∃ placed, Toml.readEntries text.toList = .ok placed ∧
    Value.bareEntries placed = Value.bareEntries entries

section Reading

variable {text : String} {entries : List (Key × Value)} {c : Config}

theorem Says.read_eq_ok_iff (h : Says text entries) :
    (Config.read text).1 = .ok c ↔ Config.decode entries = .ok c := by
  obtain ⟨placed, hread, hbare⟩ := h
  rw [Config.read_eq_ok_iff hread, Config.decode_congr hbare]

theorem read_warnings (hread : Toml.readEntries text.toList = .ok entries)
    (hok : (Config.read text).1 = .ok c) :
    (Config.read text).2.filter (·.level = .warn) =
      (warned entries).map Spot.warning := by
  have hwarn : (Config.warnings entries).filter (·.level = .warn) =
      Config.warnings entries := by
    rw [List.filter_eq_self, warnings_eq]
    intro event hevent
    obtain ⟨spot, -, rfl⟩ := List.mem_map.mp hevent
    exact decide_eq_true (level_warning spot)
  rw [← warnings_eq]
  have hdecode := (Config.read_eq_ok_iff hread).mp hok
  simp only [Config.read]
  split
  next hblank =>
      obtain rfl := Toml.readEntries_of_blank (by simpa using hblank) hread
      simp [Config.warnings, inOrder]
  next => simp [hread, hdecode, hwarn, Config.loaded]

/-- Where the sections of a configuration are tables, the warnings name, once
each and in order, the entries that decoding passes over, as far as they are
seen: what stands in a section whose first key is the one reserved for dates is
not, and nothing is where a table that has this key first holds no date.  An
entry that is passed over can be taken out or changed, and the configuration
stays the same; every other entry has a value that makes another one. -/
theorem Config.warns_of_passed_over
    (hread : Toml.readEntries text.toList = .ok entries)
    (hok : (Config.read text).1 = .ok c)
    (htables : SectionsAreTables entries) :
    (∃ spots : List Spot,
      (Config.read text).2.filter (·.level = .warn) =
        spots.map Spot.warning ∧
      spots.Pairwise (·.path < ·.path) ∧
      ∀ spot, spot ∈ spots ↔ spot.IsTaken entries ∧
        PassesOver c entries spot ∧ spot.IsSeen entries) ∧
    ∀ spot : Spot, spot.IsTaken entries →
      (PassesOver c entries spot → ∀ value? other,
        Says other (spot.amend value? entries) →
          (Config.read other).1 = .ok c) ∧
      (¬PassesOver c entries spot → ∃ value c', c' ≠ c ∧
        Config.decode (spot.amend (some value) entries) = .ok c' ∧
        ∀ other, Says other (spot.amend (some value) entries) →
          (Config.read other).1 = .ok c') := by
  have hdistinct := Toml.readEntries_distinct hread
  have hdecode := (Config.read_eq_ok_iff hread).mp hok
  have hpasses {spot : Spot} (htaken : spot.IsTaken entries) :
      PassesOver c entries spot ↔ ¬spot.isKnown :=
    passesOver_iff hdecode hdistinct htables htaken
  refine ⟨⟨warned entries, read_warnings hread hok,
    pairwise_warned hdistinct, fun spot => ?_⟩, fun spot htaken => ⟨?_, ?_⟩⟩
  · rw [mem_warned_iff]
    refine and_congr_right fun htaken => ?_
    rw [hpasses htaken]
  · intro hpassed value? other hsays
    exact hsays.read_eq_ok_iff.mpr (hpassed value?)
  · intro hnot
    rw [hpasses htaken, not_not] at hnot
    obtain ⟨value, c', hne, hc'⟩ :=
      exists_amend_of_isKnown hdecode hdistinct htables htaken hnot
    exact ⟨value, c', hne, hc', fun other hsays =>
      hsays.read_eq_ok_iff.mpr hc'⟩

/-- An unknown section, an unknown key, and one that a section has first and that
is reserved for dates. -/
theorem Config.warns_of_passed_over_but_date :
    let text := "x = 1\n[store]\ny = 1\ntable = 'a'\n" ++
      "[fetch]\n'$__toml_private_datetime' = '1979-05-27'"
    let entries := [(⟨"x", 0⟩, .integer 4 1),
      (⟨"store", 7⟩, .table (some 6) [
        (⟨"y", 14⟩, .integer 18 1), (⟨"table", 20⟩, .string 28 "a")]),
      (⟨"fetch", 33⟩, .table (some 32) [
        (⟨dateKey, 40⟩, .string 69 "1979-05-27")])]
    let c : Config := { store := { table := "a" } }
    Toml.readEntries text.toList = .ok entries ∧
      (Config.read text).1 = .ok c ∧ SectionsAreTables entries ∧
      (∃ spots : List Spot,
        (Config.read text).2.filter (·.level = .warn) =
          spots.map Spot.warning ∧
        .top "x" ∈ spots ∧ .inside "store" "y" ∈ spots ∧
        .inside "store" "table" ∉ spots ∧ .inside "fetch" dateKey ∉ spots) ∧
      PassesOver c entries (.inside "fetch" dateKey) := by
  intro text entries c
  have hread : Toml.readEntries text.toList = .ok entries := by
    simp only [text, entries]
    cbv
  have hdecode : Config.decode entries = .ok c := rfl
  have hok : (Config.read text).1 = .ok c :=
    (Config.read_eq_ok_iff hread).mpr hdecode
  have htables : SectionsAreTables entries := by
    simp [SectionsAreTables, entries, lookup?]
  have hpasses {spot : Spot} (htaken : spot.IsTaken entries) :
      PassesOver c entries spot ↔ ¬spot.isKnown :=
    passesOver_iff hdecode (Toml.readEntries_distinct hread) htables htaken
  have hhold : entriesHold entries := by decide +kernel
  obtain ⟨⟨spots, hspots, -, hmem⟩, -⟩ :=
    Config.warns_of_passed_over hread hok htables
  have hx : Spot.IsTaken entries (.top "x") := by
    simp [Spot.IsTaken, names, entries]
  have hy : Spot.IsTaken entries (.inside "store" "y") := by
    simp [Spot.IsTaken, names, entries, sectionEntries, lookup?]
  have hdate : Spot.IsTaken entries (.inside "fetch" dateKey) := by
    simp [Spot.IsTaken, names, entries, sectionEntries, lookup?]
  refine ⟨hread, hok, htables, ⟨spots, hspots, ?_, ?_, ?_, ?_⟩,
    (hpasses hdate).mpr (by decide)⟩
  · refine (hmem _).mpr ⟨hx, (hpasses hx).mpr (by decide), hhold, ?_⟩
    rintro _ _ ⟨⟩
  · refine (hmem _).mpr ⟨hy, (hpasses hy).mpr (by decide), hhold, ?_⟩
    rintro _ _ ⟨rfl, rfl⟩
    decide +kernel
  · intro h
    obtain ⟨htaken, hpassed, -⟩ := (hmem _).mp h
    exact (hpasses htaken).mp hpassed rfl
  · intro h
    obtain ⟨-, -, -, hseen⟩ := (hmem _).mp h
    exact hseen "fetch" dateKey rfl (by decide +kernel)

end Reading

end Newsstand
