import Newsstand.Config.Warnings
import Newsstand.Proofs.Config.Settings

/-!
# Amended configurations

What decoding makes of an entry shows when the entry is amended: when it is
given another value or is taken out.  Under a key that no field has, nothing
that is done makes a difference.  Under every other key there is a value that
does, in a section as in the whole configuration.
-/

namespace Newsstand

open Toml (Key Value names mem_names_of_mem nodup_names_cons)
open Toml.Value (lookup?)

/-! ## Amending entries -/

/-- The entries with another value under a key, if it is among them, or without
that entry if no value is given. -/
def amend (name : String) (value? : Option Value)
    (entries : List (Key × Value)) : List (Key × Value) :=
  entries.filterMap fun entry =>
    if entry.1.text = name then value?.map (entry.1, ·) else some entry

section Amend

variable {name other : String} {value : Value} {value? : Option Value}
  {entry : Key × Value} {entries : List (Key × Value)}

theorem amend_cons_of_eq (h : entry.1.text = name) :
    amend name value? (entry :: entries) =
      (value?.map (entry.1, ·)).toList ++ amend name value? entries := by
  cases value? <;> simp [amend, h]

theorem amend_some_cons_of_eq (h : entry.1.text = name) :
    amend name (some value) (entry :: entries) =
      (entry.1, value) :: amend name (some value) entries :=
  amend_cons_of_eq h

theorem amend_cons_of_ne (h : entry.1.text ≠ name) :
    amend name value? (entry :: entries) =
      entry :: amend name value? entries := by
  simp [amend, h]

theorem names_amend_some :
    names (amend name (some value) entries) = names entries := by
  induction entries with
  | nil => rfl
  | cons entry entries ih =>
      by_cases h : entry.1.text = name
      · rw [amend_some_cons_of_eq h]
        exact congrArg (entry.1.text :: ·) ih
      · rw [amend_cons_of_ne h]
        exact congrArg (entry.1.text :: ·) ih

theorem lookup?_amend_self (h : name ∈ names entries) :
    lookup? (amend name (some value) entries) name = some value := by
  induction entries with
  | nil => exact absurd h List.not_mem_nil
  | cons entry entries ih =>
      by_cases hentry : entry.1.text = name
      · rw [amend_some_cons_of_eq hentry]
        exact lookup?_cons_of_eq hentry
      · rw [amend_cons_of_ne hentry, lookup?_cons_of_ne hentry]
        refine ih ((List.mem_cons.mp h).resolve_left fun heq => ?_)
        exact hentry heq.symm

theorem lookup?_amend_of_ne (h : other ≠ name) :
    lookup? (amend name (some value) entries) other =
      lookup? entries other := by
  induction entries with
  | nil => rfl
  | cons entry entries ih =>
      by_cases hentry : entry.1.text = name
      · have hother : entry.1.text ≠ other := hentry ▸ h.symm
        have hamended : (entry.1, value).1.text ≠ other := hother
        rw [amend_some_cons_of_eq hentry, lookup?_cons_of_ne hamended,
          lookup?_cons_of_ne hother, ih]
      · rw [amend_cons_of_ne hentry]
        by_cases hother : entry.1.text = other
        · rw [lookup?_cons_of_eq hother, lookup?_cons_of_eq hother]
        · rw [lookup?_cons_of_ne hother, lookup?_cons_of_ne hother, ih]

end Amend

/-! ## Entries that are passed over -/

section Decode

variable {σ : Type} {fields : List (Field σ)} {settings : List (Setting σ)}
  {name : String} {value : Value} {value? : Option Value}
  {entries : List (Key × Value)} {s s' : σ} {start? : Option ℕ}

theorem find?_eq_none_of_notMem (h : name ∉ fields.map (·.name)) :
    fields.find? (·.name == name) = none := by
  rw [List.find?_eq_none]
  intro field hfield hname
  exact h (beq_iff_eq.mp hname ▸ List.mem_map_of_mem hfield)

/-- Under a key that no field has, nothing makes a difference. -/
theorem decodeSection_amend_of_notMem (h : name ∉ fields.map (·.name)) :
    decodeSection fields s (.table start? (amend name value? entries)) =
      decodeSection fields s (.table start? entries) := by
  simp only [decodeSection_table]
  induction entries generalizing s with
  | nil => rfl
  | cons entry entries ih =>
      by_cases hentry : entry.1.text = name
      · have hpass (value : Value) :
            putEntry fields s (entry.1, value) = .ok s :=
          putEntry_of_find?_eq_none (find?_eq_none_of_notMem (hentry ▸ h))
        have hrest : (entry :: entries).foldlM (putEntry fields) s =
            entries.foldlM (putEntry fields) s := by
          rw [List.foldlM_cons, hpass entry.2]
          rfl
        rw [amend_cons_of_eq hentry, hrest, ← ih]
        cases value? with
        | none => rfl
        | some value =>
            rw [Option.map_some, Option.toList_some, List.singleton_append,
              List.foldlM_cons, hpass value]
            rfl
      · rw [amend_cons_of_ne hentry, List.foldlM_cons, List.foldlM_cons]
        exact congrArg _ (funext fun _ => ih)

/-- A value that the field makes the same of makes no difference. -/
theorem decodeSection_amend_of_put_eq {field : Field σ}
    (hfield : fields.find? (·.name == name) = some field)
    (hput : ∀ entry ∈ entries, entry.1.text = name →
      ∀ s, field.put s value = field.put s entry.2) :
    decodeSection fields s (.table start? (amend name (some value) entries)) =
      decodeSection fields s (.table start? entries) := by
  simp only [decodeSection_table]
  induction entries generalizing s with
  | nil => rfl
  | cons entry entries ih =>
      have hrest (s : σ) := @ih s fun other hother =>
        hput other (List.mem_cons_of_mem _ hother)
      by_cases hentry : entry.1.text = name
      · have hsame : putEntry fields s (entry.1, value) =
            putEntry fields s entry := by
          simp only [putEntry, hentry, hfield,
            hput entry List.mem_cons_self hentry s]
        rw [amend_some_cons_of_eq hentry, List.foldlM_cons, List.foldlM_cons,
          hsame]
        exact congrArg _ (funext hrest)
      · rw [amend_cons_of_ne hentry, List.foldlM_cons, List.foldlM_cons]
        exact congrArg _ (funext hrest)

/-! ## Entries that matter -/

/-- Whatever the datum of a setting is, some value gives another one. -/
def Setting.Free (x : Setting σ) : Prop :=
  ∀ datum, ∃ value other, x.reads value = some other ∧ other ≠ datum

/-- The fields carry out settings that can be changed, whatever else is written
in the section. -/
structure Adjustable (fields : List (Field σ)) (settings : List (Setting σ)) :
    Prop where
  carriesOut : ∀ entries, CarriesOut fields settings entries
  free : ∀ x ∈ settings, x.Free

/-- A value that one setting can read fits all settings with its key. -/
theorem Adjustable.reads_isSome (h : Adjustable fields settings) (s : σ)
    {x y : Setting σ} (hx : x ∈ settings) (hy : y ∈ settings)
    (hkey : y.key = x.key) (hreads : (x.reads value).isSome) :
    (y.reads value).isSome := by
  have hcarries := h.carriesOut [(⟨x.key, 0⟩, value)]
  obtain ⟨field, hfield, hsets⟩ := hcarries.sets x hx
  obtain ⟨other, hother, hsets'⟩ := hcarries.sets y hy
  rw [hkey, hfield] at hother
  obtain rfl := Option.some.inj hother
  by_contra hnot
  have hput := ((hsets _ List.mem_cons_self rfl).fits s).mpr hreads
  exact hnot (((hsets' _ List.mem_cons_self hkey.symm).fits s).mp hput)

theorem Adjustable.exists_key (h : Adjustable fields settings)
    (hname : name ∈ fields.map (·.name)) : ∃ x ∈ settings, x.key = name := by
  obtain ⟨field, hfield, rfl⟩ := List.mem_map.mp hname
  exact (h.carriesOut []).known field hfield

/-- A setting is what its entry gives. -/
theorem Adjustable.reads_of_lookup? (h : Adjustable fields settings)
    (hnodup : (names entries).Nodup)
    (hok : decodeSection fields s (.table start? entries) = .ok s')
    {x : Setting σ} (hx : x ∈ settings)
    (hlookup : lookup? entries x.key = some value) :
    x.reads value = some (x.part s') := by
  obtain ⟨hfits, hfollows⟩ :=
    decodeSection_fieldwise hnodup (h.carriesOut entries) s start?
  obtain ⟨datum, hdatum⟩ :=
    Option.isSome_iff_exists.mp (hfits.mp ⟨s', hok⟩ x hx value hlookup)
  have hpart := hfollows s' hok x hx
  rw [hlookup, Option.bind_some, hdatum, Option.getD_some] at hpart
  rw [hdatum, hpart]

/-- The entry of a setting can be given each value that the setting can read. -/
theorem Adjustable.decode_amend (h : Adjustable fields settings)
    (hnodup : (names entries).Nodup)
    (hok : decodeSection fields s (.table start? entries) = .ok s')
    {x : Setting σ} (hx : x ∈ settings) (hname : x.key ∈ names entries)
    {datum : x.datum} (hreads : x.reads value = some datum) :
    ∃ t, decodeSection fields s
        (.table start? (amend x.key (some value) entries)) = .ok t ∧
      x.part t = datum := by
  have hfits := (decodeSection_fieldwise hnodup (h.carriesOut entries) s
    start?).1.mp ⟨s', hok⟩
  obtain ⟨hiff, hfollows⟩ := decodeSection_fieldwise
    (names_amend_some.symm ▸ hnodup)
    (h.carriesOut (amend x.key (some value) entries)) s start?
  obtain ⟨t, ht⟩ := hiff.mpr fun y hy given hgiven => by
    by_cases hkey : y.key = x.key
    · rw [hkey, lookup?_amend_self hname] at hgiven
      obtain rfl := Option.some.inj hgiven
      exact h.reads_isSome s hx hy hkey (by rw [hreads]; rfl)
    · rw [lookup?_amend_of_ne hkey] at hgiven
      exact hfits y hy given hgiven
  refine ⟨t, ht, ?_⟩
  have hpart := hfollows t ht x hx
  rwa [lookup?_amend_self hname, Option.bind_some, hreads] at hpart

/-- The entry of a setting can be given a value that makes a difference. -/
theorem Adjustable.exists_amend (h : Adjustable fields settings)
    (hnodup : (names entries).Nodup)
    (hok : decodeSection fields s (.table start? entries) = .ok s')
    (hname : name ∈ names entries) (hknown : name ∈ fields.map (·.name)) :
    ∃ value t, decodeSection fields s
        (.table start? (amend name (some value) entries)) = .ok t ∧
      t ≠ s' := by
  obtain ⟨x, hx, rfl⟩ := h.exists_key hknown
  obtain ⟨value, datum, hreads, hne⟩ := h.free x hx (x.part s')
  obtain ⟨t, ht, hpart⟩ := h.decode_amend hnodup hok hx hname hreads
  exact ⟨value, t, ht, fun heq => hne (by rw [← hpart, heq])⟩

end Decode

/-! ## The fields of a configuration -/

theorem Setting.free_text {σ : Type} (key : String) (part : σ → String) :
    Setting.Free ⟨key, Value.text?, part⟩ := fun datum =>
  ⟨.string 0 (datum.push 'x'), _, rfl, fun h => by
    simpa using congrArg String.length h⟩

theorem Setting.free_number {σ : Type} (key : String) (part : σ → ℕ)
    {limit : ℕ} (hlimit : 1 < limit) :
    Setting.Free ⟨key, Value.number? limit, part⟩ := by
  intro (datum : ℕ)
  have hpos : 0 < limit := by omega
  by_cases h : datum = 0
  · exact ⟨.integer 0 1, 1, by simp [Value.number?, hlimit], by simp [h]⟩
  · exact ⟨.integer 0 0, 0, by simp [Value.number?, hpos], Ne.symm h⟩

theorem Setting.free_backend {σ : Type} (key : String) (part : σ → Backend) :
    Setting.Free ⟨key, fun value => (decodeBackend value).toOption, part⟩ := by
  rintro (_ | _)
  · exact ⟨.string 0 "durable", .durable, rfl, nofun⟩
  · exact ⟨.string 0 "volatile", .volatile, rfl, nofun⟩

/-- The settings of the section on the store, the backend in whichever way it is
written. -/
def StoreConfig.decodedSettings : List (Setting StoreConfig) :=
  ⟨"backend", fun value => (decodeBackend value).toOption, (·.backend)⟩ ::
    StoreConfig.settings.tail

theorem StoreConfig.adjustable :
    Adjustable StoreConfig.fields StoreConfig.decodedSettings where
  carriesOut entries := by
    refine ⟨?_, by simp [fields, decodedSettings, settings], ?_⟩
    · simp only [decodedSettings, settings, List.tail_cons,
        List.forall_mem_cons]
      refine ⟨⟨_, rfl, fun _ _ _ => ?_⟩, ⟨_, rfl, fun _ _ _ => ?_⟩,
        ⟨_, rfl, fun _ _ _ => ?_⟩, ⟨_, rfl, fun _ _ _ => ?_⟩, by simp⟩
      · exact Setting.setBy_of (fun _ => toOption_eq_some) fun _ _ => rfl
      · exact Setting.setBy_of (fun _ => decodeText_eq_ok) fun _ _ => rfl
      · exact Setting.setBy_of (fun _ => decodeText_eq_ok) fun _ _ => rfl
      · exact Setting.setBy_of (fun _ => decodeNumber_eq_ok) fun _ _ => rfl
    · simp [fields, decodedSettings, settings, Setting.keptBy_of]
  free := by
    simp [decodedSettings, settings, Setting.free_backend, Setting.free_text,
      Setting.free_number]

theorem FetchConfig.adjustable :
    Adjustable FetchConfig.fields FetchConfig.settings where
  carriesOut := FetchConfig.carriesOut
  free := by
    simp [settings, Setting.free_text, Setting.free_number]

theorem BreakerConfig.adjustable :
    Adjustable BreakerConfig.fields BreakerConfig.settings where
  carriesOut := BreakerConfig.carriesOut
  free := by
    simp [settings, Setting.free_number]

/-! ## The sections of a configuration -/

section Sections

variable {σ : Type} {fields : List (Field σ)} {settings : List (Setting σ)}

/-- A section can be written so that it is not a given one. -/
theorem Adjustable.free_wholeSection (h : Adjustable fields settings)
    (hsome : ∃ x, x ∈ settings) {name : String} {initial : σ}
    {part : Config → σ} : (wholeSection name fields initial part).Free := by
  intro (s : σ)
  obtain ⟨x, hx⟩ := hsome
  obtain ⟨value, datum, hreads, hne⟩ := h.free x hx (x.part s)
  have hcarries := h.carriesOut [(⟨x.key, 0⟩, value)]
  obtain ⟨t, ht⟩ := (hcarries.putEntry_fits initial).mpr fun y hy hkey =>
    h.reads_isSome initial hx hy hkey.symm (by rw [hreads]; rfl)
  have hpart := hcarries.putEntry_follows hx rfl ht
  refine ⟨.table none [(⟨x.key, 0⟩, value)], t, ?_, fun heq => hne ?_⟩
  · have hdecode : decodeSection fields initial
        (.table none [(⟨x.key, 0⟩, value)]) = .ok t := by
      rw [decodeSection_table, List.foldlM_cons, ht]
      rfl
    exact toOption_eq_some.mp hdecode
  · rw [← heq]
    exact Option.some.inj (hreads.symm.trans hpart)

end Sections

theorem Config.adjustable :
    Adjustable Config.fields Config.sectionSettings where
  carriesOut := Config.carriesOut
  free := by
    simp only [sectionSettings, List.forall_mem_cons]
    exact ⟨StoreConfig.adjustable.free_wholeSection ⟨_, List.mem_cons_self⟩,
      FetchConfig.adjustable.free_wholeSection ⟨_, List.mem_cons_self⟩,
      BreakerConfig.adjustable.free_wholeSection ⟨_, List.mem_cons_self⟩,
      by simp⟩

/-- What a section is: how it is decoded, what can be set in it, and which keys
it has. -/
theorem Config.exists_section {table : String}
    (h : table ∈ ["store", "fetch", "breaker"]) :
    ∃ (σ : Type) (fields : List (Field σ)) (settings : List (Setting σ))
      (initial : σ) (part : Config → σ) (set : Config → σ → Config),
      Adjustable fields settings ∧
      wholeSection table fields initial part ∈ Config.sectionSettings ∧
      Config.fields.find? (·.name == table) =
        some (.of table (decodeSection fields initial) set) ∧
      Config.sections.lookup table = some (fields.map (·.name)) := by
  simp only [List.mem_cons, List.not_mem_nil, or_false] at h
  rcases h with rfl | rfl | rfl
  · exact ⟨_, _, _, {}, (·.store), _, StoreConfig.adjustable,
      by simp [sectionSettings], rfl, rfl⟩
  · exact ⟨_, _, _, {}, (·.fetch), _, FetchConfig.adjustable,
      by simp [sectionSettings], rfl, rfl⟩
  · exact ⟨_, _, _, {}, (·.breaker), _, BreakerConfig.adjustable,
      by simp [sectionSettings], rfl, rfl⟩

end Newsstand
