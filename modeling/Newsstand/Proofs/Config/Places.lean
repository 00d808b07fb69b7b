import Newsstand.Proofs.Config.Fields

/-!
# Places do not matter

Where the parts of a text start decides nothing but the place of a fault.  Two
texts that say the same, in whatever layout, make the same configuration.
-/

namespace Newsstand

open Toml (Key Value)

/-! ## Values without their places -/

/-- A key without its place. -/
def Toml.Key.bare (key : Key) : Key :=
  ⟨key.text, 0⟩

namespace Toml.Value

mutual

/-- A value without the places of its parts. -/
def bare : Value → Value
  | .string _ text => .string 0 text
  | .integer _ n => .integer 0 n
  | .float _ => .float 0
  | .boolean _ b => .boolean 0 b
  | .date _ => .date 0
  | .array _ items => .array none (bareItems items)
  | .table _ entries => .table none (bareEntries entries)

/-- The same for the items of a list. -/
def bareItems : List Value → List Value
  | [] => []
  | item :: items => item.bare :: bareItems items

/-- The same for the entries of a table. -/
def bareEntries : List (Key × Value) → List (Key × Value)
  | [] => []
  | (key, value) :: entries => (key.bare, value.bare) :: bareEntries entries

end

theorem bareItems_eq (items : List Value) : bareItems items = items.map bare := by
  induction items with
  | nil => rfl
  | cons item items ih => rw [bareItems, ih, List.map_cons]

theorem bareEntries_eq (entries : List (Key × Value)) :
    bareEntries entries =
      entries.map fun entry => (entry.1.bare, entry.2.bare) := by
  induction entries with
  | nil => rfl
  | cons entry entries ih => rw [bareEntries, ih, List.map_cons]

end Toml.Value

/-! ## Decoding -/

/-- Two results are the same unless both are faults. -/
def Decoded.SameResult {α : Type} (d e : Decoded α) : Prop :=
  ∀ a, d = .ok a ↔ e = .ok a

namespace Decoded.SameResult

variable {α β : Type} {d e : Decoded α}

theorem refl (d : Decoded α) : d.SameResult d :=
  fun _ => Iff.rfl

theorem orAt (h : d.SameResult e) (place? other? : Option ℕ) :
    (Decoded.orAt place? d).SameResult (Decoded.orAt other? e) := fun a => by
  rw [orAt_eq_ok, orAt_eq_ok, h a]

theorem bind (h : d.SameResult e) {f g : α → Decoded β}
    (hnext : ∀ a, (f a).SameResult (g a)) :
    (d >>= f).SameResult (e >>= g) := by
  intro b
  cases d with
  | ok a =>
      obtain rfl : e = .ok a := (h a).mp rfl
      exact hnext a b
  | error place? =>
      cases e with
      | ok a => cases (h a).mpr rfl
      | error other? => exact iff_of_false nofun nofun

end Decoded.SameResult

/-- Places have no influence on what a value is decoded to. -/
def PlacesDoNotMatter {α : Type} (decode : Value → Decoded α) : Prop :=
  ∀ value : Value, (decode value.bare).SameResult (decode value)

theorem placesDoNotMatter_decodeText : PlacesDoNotMatter decodeText := by
  intro value text
  cases value <;> simp [Value.bare, decodeText]

theorem placesDoNotMatter_decodeNumber (limit : ℕ) :
    PlacesDoNotMatter (decodeNumber limit) := by
  intro value n
  cases value with
  | integer start m =>
      cases m with
      | ofNat m =>
          simp only [Value.bare, decodeNumber]
          split <;> simp
      | negSucc m => simp [Value.bare, decodeNumber]
  | _ => simp [Value.bare, decodeNumber]

theorem placesDoNotMatter_decodeBackend : PlacesDoNotMatter decodeBackend := by
  intro value backend
  cases value with
  | string start name =>
      simp only [Value.bare, decodeBackend]
      cases Backend.ofName? name <;> simp
  | table start? entries =>
      match entries with
      | [] => simp [Value.bare, Value.bareEntries, decodeBackend]
      | [(key, content)] =>
          simp only [Value.bare, Value.bareEntries, Toml.Key.bare,
            decodeBackend]
          cases Backend.ofName? key.text with
          | none => simp
          | some found =>
              cases content with
              | table inner? entries =>
                  cases entries <;> simp [Value.bare, Value.bareEntries]
              | array inner? items =>
                  cases items <;> simp [Value.bare, Value.bareItems]
              | _ => simp [Value.bare]
      | _ :: _ :: _ => simp [Value.bare, Value.bareEntries, decodeBackend]
  | _ => simp [Value.bare, decodeBackend]

/-! ## Sections -/

section Sections

variable {σ : Type} {fields : List (Field σ)}

theorem sameResult_of {α : Type} {decode : Value → Decoded α}
    (h : PlacesDoNotMatter decode) (name : String) (set : σ → α → σ) (s : σ)
    (value : Value) :
    ((Field.of name decode set).put s value.bare).SameResult
      ((Field.of name decode set).put s value) :=
  (h value).bind fun _ => .refl _

theorem sameResult_putEntry
    (h : ∀ field ∈ fields, ∀ s value,
      (field.put s (Value.bare value)).SameResult (field.put s value))
    (s : σ) (entry : Key × Value) :
    (putEntry fields s (entry.1.bare, entry.2.bare)).SameResult
      (putEntry fields s entry) := by
  have hkey : (entry.1.bare, entry.2.bare).1.text = entry.1.text := rfl
  unfold putEntry
  rw [hkey]
  split
  next field hfield =>
      exact (h field (List.mem_of_find?_eq_some hfield) s entry.2).orAt _ _
  next => exact .refl _

/-- Places have no influence on a section if they have none on its fields. -/
theorem placesDoNotMatter_decodeSection
    (h : ∀ field ∈ fields, ∀ s value,
      (field.put s (Value.bare value)).SameResult (field.put s value))
    (initial : σ) : PlacesDoNotMatter (decodeSection fields initial) := by
  intro value
  cases value with
  | table start? entries =>
      simp only [Value.bare, Value.bareEntries_eq, decodeSection_table,
        List.foldlM_map]
      induction entries generalizing initial with
      | nil => exact .refl _
      | cons entry entries ih =>
          rw [List.foldlM_cons, List.foldlM_cons]
          exact (sameResult_putEntry h initial entry).bind ih
  | array start? items =>
      simp only [Value.bare, Value.bareItems_eq, decodeSection,
        List.zip_map_right, List.foldlM_map]
      have hmem : ∀ p ∈ fields.zip items, p.1 ∈ fields := fun p hp =>
        (List.of_mem_zip hp).1
      generalize fields.zip items = pairs at hmem
      induction pairs generalizing initial with
      | nil => exact .refl _
      | cons p pairs ih =>
          rw [List.foldlM_cons, List.foldlM_cons]
          obtain ⟨hfirst, hrest⟩ := List.forall_mem_cons.mp hmem
          exact (h p.1 hfirst initial p.2).bind fun s => ih s hrest
  | _ => exact fun _ => by simp [Value.bare, decodeSection]

end Sections

theorem placesDoNotMatter_store :
    PlacesDoNotMatter (decodeSection StoreConfig.fields {}) := by
  refine placesDoNotMatter_decodeSection ?_ _
  simp only [StoreConfig.fields, List.forall_mem_cons]
  exact ⟨sameResult_of placesDoNotMatter_decodeBackend _ _,
    sameResult_of placesDoNotMatter_decodeText _ _,
    sameResult_of placesDoNotMatter_decodeText _ _,
    sameResult_of (placesDoNotMatter_decodeNumber _) _ _, by simp⟩

theorem placesDoNotMatter_fetch :
    PlacesDoNotMatter (decodeSection FetchConfig.fields {}) := by
  have hnumber := placesDoNotMatter_decodeNumber UInt64.size
  refine placesDoNotMatter_decodeSection ?_ _
  simp only [FetchConfig.fields, List.forall_mem_cons]
  exact ⟨sameResult_of placesDoNotMatter_decodeText _ _,
    sameResult_of hnumber _ _, sameResult_of hnumber _ _,
    sameResult_of hnumber _ _, sameResult_of hnumber _ _,
    sameResult_of placesDoNotMatter_decodeText _ _, by simp⟩

theorem placesDoNotMatter_breaker :
    PlacesDoNotMatter (decodeSection BreakerConfig.fields {}) := by
  have hnumber := placesDoNotMatter_decodeNumber UInt64.size
  refine placesDoNotMatter_decodeSection ?_ _
  simp only [BreakerConfig.fields, List.forall_mem_cons]
  exact ⟨sameResult_of (placesDoNotMatter_decodeNumber _) _ _,
    sameResult_of hnumber _ _, sameResult_of hnumber _ _,
    sameResult_of hnumber _ _, sameResult_of hnumber _ _, by simp⟩

/-- Entries that say the same make the same configuration. -/
theorem Config.decode_congr {entries others : List (Key × Value)}
    (h : Value.bareEntries others = Value.bareEntries entries) (c : Config) :
    Config.decode others = .ok c ↔ Config.decode entries = .ok c := by
  have hplaces : PlacesDoNotMatter (decodeSection Config.fields {}) := by
    refine placesDoNotMatter_decodeSection ?_ _
    simp only [Config.fields, List.forall_mem_cons]
    exact ⟨sameResult_of placesDoNotMatter_store _ _,
      sameResult_of placesDoNotMatter_fetch _ _,
      sameResult_of placesDoNotMatter_breaker _ _, by simp⟩
  have hentries := hplaces (.table (some 0) entries) c
  have hothers := hplaces (.table (some 0) others) c
  simp only [Value.bare, h] at hentries hothers
  exact hothers.symm.trans hentries

end Newsstand
