import Newsstand.Config.Decoding
import Newsstand.Proofs.Toml.Keys

/-!
# Decoding field by field

A section is decoded by putting its entries into it one after another.  Where
keys are distinct, each field is settled by the one entry that has its key: the
section can be decoded if and only if each of these entries fits, and what the
others are, and where they stand, does not matter.
-/

namespace Newsstand

open Toml (Key Value names mem_names_of_mem nodup_names_cons)
open Toml.Value (lookup?)

/-! ## Looking up -/

section Lookup

variable {entry : Key × Value} {entries : List (Key × Value)} {name : String}

theorem lookup?_cons_of_eq (h : entry.1.text = name) :
    lookup? (entry :: entries) name = some entry.2 := by
  rw [lookup?, List.find?_cons_of_pos (by simpa using h), Option.map_some]

theorem lookup?_cons_of_ne (h : entry.1.text ≠ name) :
    lookup? (entry :: entries) name = lookup? entries name := by
  rw [lookup?, List.find?_cons_of_neg (by simpa using h), lookup?]

theorem lookup?_of_notMem (h : name ∉ names entries) :
    lookup? entries name = none := by
  rw [lookup?, Option.map_eq_none_iff, List.find?_eq_none]
  intro entry hentry hname
  exact h (beq_iff_eq.mp hname ▸ mem_names_of_mem hentry)

theorem mem_of_lookup? {value : Value} (h : lookup? entries name = some value) :
    ∃ key, (key, value) ∈ entries := by
  obtain ⟨entry, hentry, rfl⟩ := Option.map_eq_some_iff.mp h
  exact ⟨entry.1, List.mem_of_find?_eq_some hentry⟩

/-- Where keys are distinct, each entry is the one that is looked up. -/
theorem lookup?_of_mem (hnodup : (names entries).Nodup) (h : entry ∈ entries) :
    lookup? entries entry.1.text = some entry.2 := by
  induction entries with
  | nil => exact absurd h List.not_mem_nil
  | cons first entries ih =>
      obtain ⟨hfresh, hnodup⟩ := nodup_names_cons.mp hnodup
      rcases List.mem_cons.mp h with rfl | h
      · exact lookup?_cons_of_eq rfl
      · have hne : first.1.text ≠ entry.1.text := fun heq =>
          hfresh (heq ▸ mem_names_of_mem h)
        rw [lookup?_cons_of_ne hne, ih hnodup h]

end Lookup

/-! ## Settings and fields -/

/-- What a key of a section stands for: the datum that is read off the value, if
the value is of the right type and in range, and the part of the section that is
to be this datum. -/
structure Setting (σ : Type) where
  {datum : Type}
  key : String
  reads : Value → Option datum
  part : σ → datum

variable {σ : Type} {fields : List (Field σ)} {settings : List (Setting σ)}
  {entries : List (Key × Value)}

/-- Every value that is given for one of the settings is of the right type and in
range. -/
def Fits (settings : List (Setting σ)) (entries : List (Key × Value)) : Prop :=
  ∀ x ∈ settings, ∀ value, lookup? entries x.key = some value →
    (x.reads value).isSome

/-- Each part of the section is the datum that is given for it, and as before if
none is given. -/
def Follows (settings : List (Setting σ)) (entries : List (Key × Value))
    (s s' : σ) : Prop :=
  ∀ x ∈ settings,
    x.part s' = ((lookup? entries x.key).bind x.reads).getD (x.part s)

/-- Putting the value into the field makes the part of the setting what is read
off the value, and fails if nothing is read off it. -/
structure Setting.SetBy (x : Setting σ) (field : Field σ) (value : Value) :
    Prop where
  fits : ∀ s, (∃ s', field.put s value = .ok s') ↔ (x.reads value).isSome
  follows : ∀ s s', field.put s value = .ok s' →
    x.reads value = some (x.part s')

/-- Putting a value into the field leaves the part of the setting alone. -/
def Setting.KeptBy (x : Setting σ) (field : Field σ) : Prop :=
  ∀ s s' value, field.put s value = .ok s' → x.part s' = x.part s

section Of

variable {α : Type} {name : String} {x : Setting σ}

@[simp] theorem Field.of_name (name : String) (decode : Value → Decoded α)
    (set : σ → α → σ) : (Field.of name decode set).name = name :=
  rfl

theorem Field.of_put_eq_ok {decode : Value → Decoded α} {set : σ → α → σ}
    {s s' : σ} {value : Value} :
    (Field.of name decode set).put s value = .ok s' ↔
      ∃ a, decode value = .ok a ∧ set s a = s' := by
  cases h : decode value <;>
    simp [Field.of, h, bind, Except.bind, pure, Except.pure]

/-- A field that sets a part of the section to what it decodes sets the setting
that is this part. -/
theorem Setting.setBy_of {decode : Value → Decoded x.datum}
    {set : σ → x.datum → σ} {value : Value}
    (hdecode : ∀ a, decode value = .ok a ↔ x.reads value = some a)
    (hset : ∀ s a, x.part (set s a) = a) :
    x.SetBy (.of name decode set) value where
  fits s := by simp [Field.of_put_eq_ok, hdecode, Option.isSome_iff_exists]
  follows s s' h := by
    obtain ⟨a, ha, rfl⟩ := Field.of_put_eq_ok.mp h
    rw [hset]
    exact (hdecode a).mp ha

theorem Setting.keptBy_of {decode : Value → Decoded α} {set : σ → α → σ}
    (hset : ∀ s a, x.part (set s a) = x.part s) :
    x.KeptBy (.of name decode set) := by
  intro s s' value h
  obtain ⟨a, -, rfl⟩ := Field.of_put_eq_ok.mp h
  exact hset s a

end Of

/-- The fields carry out the settings, as far as the values among the entries go:
each setting has a field that sets it, each field has a setting, and no field
touches the setting of another one. -/
structure CarriesOut (fields : List (Field σ)) (settings : List (Setting σ))
    (entries : List (Key × Value)) : Prop where
  sets : ∀ x ∈ settings, ∃ field,
    fields.find? (·.name == x.key) = some field ∧
      ∀ entry ∈ entries, entry.1.text = x.key → x.SetBy field entry.2
  known : ∀ field ∈ fields, ∃ x ∈ settings, x.key = field.name
  keeps : ∀ x ∈ settings, ∀ field ∈ fields, field.name ≠ x.key →
    x.KeptBy field

theorem CarriesOut.tail {entry : Key × Value}
    (h : CarriesOut fields settings (entry :: entries)) :
    CarriesOut fields settings entries where
  sets x hx := by
    obtain ⟨field, hfind, hsets⟩ := h.sets x hx
    exact ⟨field, hfind, fun other hother =>
      hsets other (List.mem_cons_of_mem _ hother)⟩
  known := h.known
  keeps := h.keeps

/-! ## One entry -/

/-- Puts an entry into a section. -/
def putEntry (fields : List (Field σ)) (s : σ) (entry : Key × Value) :
    Decoded σ :=
  match fields.find? (·.name == entry.1.text) with
  | some field => Decoded.orAt (some entry.1.start) (field.put s entry.2)
  | none => pure s

theorem decodeSection_table (s : σ) (start? : Option ℕ) :
    decodeSection fields s (.table start? entries) =
      entries.foldlM (putEntry fields) s :=
  rfl

theorem Decoded.orAt_eq_ok {α : Type} {place? : Option ℕ} {d : Decoded α}
    {a : α} : Decoded.orAt place? d = .ok a ↔ d = .ok a := by
  cases d <;> simp [Decoded.orAt, Except.mapError]

variable {entry : Key × Value} {s s' : σ}

theorem putEntry_of_find? {field : Field σ}
    (h : fields.find? (·.name == entry.1.text) = some field) :
    putEntry fields s entry = .ok s' ↔ field.put s entry.2 = .ok s' := by
  rw [putEntry, h]
  exact Decoded.orAt_eq_ok

theorem putEntry_of_find?_eq_none
    (h : fields.find? (·.name == entry.1.text) = none) :
    putEntry fields s entry = .ok s := by
  rw [putEntry, h]
  rfl

theorem name_of_find? {field : Field σ} {name : String}
    (h : fields.find? (·.name == name) = some field) : field.name = name := by
  simpa using List.find?_some h

section CarriesOut

variable (h : CarriesOut fields settings (entry :: entries)) {x : Setting σ}
  (hx : x ∈ settings)

include h

/-- An entry can be put in if it fits every setting with its key. -/
theorem CarriesOut.putEntry_fits (s : σ) :
    (∃ s', putEntry fields s entry = .ok s') ↔
      ∀ x ∈ settings, entry.1.text = x.key → (x.reads entry.2).isSome := by
  cases hfind : fields.find? (·.name == entry.1.text) with
  | none =>
      have hunknown : ∀ x ∈ settings, entry.1.text ≠ x.key := by
        intro x hx hkey
        obtain ⟨field, hfield, -⟩ := h.sets x hx
        rw [← hkey, hfind] at hfield
        cases hfield
      refine iff_of_true ⟨s, putEntry_of_find?_eq_none hfind⟩ ?_
      exact fun x hx hkey => absurd hkey (hunknown x hx)
  | some field =>
      have hsets : ∀ x ∈ settings, entry.1.text = x.key →
          x.SetBy field entry.2 := by
        intro x hx hkey
        obtain ⟨other, hother, hsets⟩ := h.sets x hx
        rw [← hkey, hfind] at hother
        exact Option.some.inj hother ▸ hsets entry List.mem_cons_self hkey
      obtain ⟨x, hx, hname⟩ := h.known field (List.mem_of_find?_eq_some hfind)
      have hkey : entry.1.text = x.key :=
        (name_of_find? hfind).symm.trans hname.symm
      simp only [putEntry_of_find? hfind]
      constructor
      · intro hput x hx hkey
        exact ((hsets x hx hkey).fits s).mp hput
      · intro hfits
        exact ((hsets x hx hkey).fits s).mpr (hfits x hx hkey)

include hx

/-- An entry with the key of a setting gives it its datum. -/
theorem CarriesOut.putEntry_follows (hkey : entry.1.text = x.key)
    (hput : putEntry fields s entry = .ok s') :
    x.reads entry.2 = some (x.part s') := by
  obtain ⟨field, hfind, hsets⟩ := h.sets x hx
  rw [← hkey] at hfind
  have hset := hsets entry List.mem_cons_self hkey
  exact hset.follows s s' ((putEntry_of_find? hfind).mp hput)

/-- An entry with another key leaves a setting alone. -/
theorem CarriesOut.putEntry_keeps (hkey : entry.1.text ≠ x.key)
    (hput : putEntry fields s entry = .ok s') : x.part s' = x.part s := by
  cases hfind : fields.find? (·.name == entry.1.text) with
  | none =>
      rw [putEntry_of_find?_eq_none hfind] at hput
      cases hput
      rfl
  | some field =>
      have hname : field.name ≠ x.key := name_of_find? hfind ▸ hkey
      have hkept := h.keeps x hx field (List.mem_of_find?_eq_some hfind) hname
      exact hkept s s' entry.2 ((putEntry_of_find? hfind).mp hput)

end CarriesOut

/-! ## All entries -/

theorem fits_cons (hfresh : entry.1.text ∉ names entries) :
    Fits settings (entry :: entries) ↔
      (∀ x ∈ settings, entry.1.text = x.key → (x.reads entry.2).isSome) ∧
        Fits settings entries := by
  constructor
  · intro h
    refine ⟨fun x hx hkey => h x hx entry.2 (lookup?_cons_of_eq hkey), ?_⟩
    intro x hx value hvalue
    have hne : entry.1.text ≠ x.key := by
      intro hkey
      rw [lookup?_of_notMem (hkey ▸ hfresh)] at hvalue
      cases hvalue
    exact h x hx value (by rwa [lookup?_cons_of_ne hne])
  · rintro ⟨hfirst, hrest⟩ x hx value hvalue
    by_cases hkey : entry.1.text = x.key
    · rw [lookup?_cons_of_eq hkey] at hvalue
      exact Option.some.inj hvalue ▸ hfirst x hx hkey
    · rw [lookup?_cons_of_ne hkey] at hvalue
      exact hrest x hx value hvalue

theorem foldlM_putEntry_fits (hnodup : (names entries).Nodup)
    (h : CarriesOut fields settings entries) (s : σ) :
    (∃ s', entries.foldlM (putEntry fields) s = .ok s') ↔
      Fits settings entries := by
  induction entries generalizing s with
  | nil => exact iff_of_true ⟨s, rfl⟩ fun x _ value hvalue => nomatch hvalue
  | cons entry entries ih =>
      obtain ⟨hfresh, hnodup⟩ := nodup_names_cons.mp hnodup
      rw [fits_cons hfresh, ← h.putEntry_fits s, List.foldlM_cons]
      cases hput : putEntry fields s entry with
      | error place? => simp [bind, Except.bind]
      | ok s₁ => simpa [bind, Except.bind] using ih hnodup h.tail s₁

theorem foldlM_putEntry_follows (hnodup : (names entries).Nodup)
    (h : CarriesOut fields settings entries)
    (hfold : entries.foldlM (putEntry fields) s = .ok s') :
    Follows settings entries s s' := by
  induction entries generalizing s with
  | nil =>
      cases hfold
      exact fun _ _ => rfl
  | cons entry entries ih =>
      obtain ⟨hfresh, hnodup⟩ := nodup_names_cons.mp hnodup
      rw [List.foldlM_cons] at hfold
      cases hput : putEntry fields s entry with
      | error place? => simp [hput, bind, Except.bind] at hfold
      | ok s₁ =>
          rw [hput] at hfold
          intro x hx
          have hrest := ih hnodup h.tail hfold x hx
          by_cases hkey : entry.1.text = x.key
          · rw [lookup?_of_notMem (hkey ▸ hfresh)] at hrest
            rw [lookup?_cons_of_eq hkey, Option.bind_some,
              h.putEntry_follows hx hkey hput]
            exact hrest
          · rw [lookup?_cons_of_ne hkey, hrest, h.putEntry_keeps hx hkey hput]

/-- A table whose keys are distinct is decoded as a section if and only if what
it gives for the settings fits, and then each setting is what is given for it or
what it was before. -/
theorem decodeSection_fieldwise (hnodup : (names entries).Nodup)
    (h : CarriesOut fields settings entries) (s : σ) (start? : Option ℕ) :
    ((∃ s', decodeSection fields s (.table start? entries) = .ok s') ↔
      Fits settings entries) ∧
    ∀ s', decodeSection fields s (.table start? entries) = .ok s' →
      Follows settings entries s s' := by
  simp only [decodeSection_table]
  exact ⟨foldlM_putEntry_fits hnodup h s, fun s' =>
    foldlM_putEntry_follows hnodup h⟩

end Newsstand
