import Mathlib.Data.List.Nodup
import Newsstand.Proofs.Toml.Readers
import Newsstand.Toml.Reading

/-!
# Keys of a text that can be read

A text that defines something twice cannot be read: in all that is read, no table
has two entries with the same key.  Headers and dotted keys build a table up from
many places of the text, so the property is one of the tables under construction,
and each way to add to one preserves it.
-/

namespace Newsstand.Toml

/-! ## Names of entries -/

section Names

variable {α : Type} {entry : Key × α} {entries : List (Key × α)}

/-- The names under which a table has entries. -/
def names (entries : List (Key × α)) : List String :=
  entries.map (·.1.text)

theorem mem_names_of_mem (h : entry ∈ entries) : entry.1.text ∈ names entries :=
  List.mem_map_of_mem h

theorem nodup_names_cons :
    (names (entry :: entries)).Nodup ↔
      entry.1.text ∉ names entries ∧ (names entries).Nodup :=
  List.nodup_cons

theorem nodup_names_concat :
    (names (entries ++ [entry])).Nodup ↔
      entry.1.text ∉ names entries ∧ (names entries).Nodup := by
  rw [names, List.map_append, List.map_singleton, List.nodup_append_comm,
    List.singleton_append, List.nodup_cons, names]

end Names

/-! ## Distinct keys -/

/-- Every table in the value has each key once. -/
inductive Value.Distinct : Value → Prop
  | string (start : ℕ) (text : String) : Distinct (.string start text)
  | integer (start : ℕ) (n : Int) : Distinct (.integer start n)
  | float (start : ℕ) : Distinct (.float start)
  | boolean (start : ℕ) (b : Bool) : Distinct (.boolean start b)
  | date (start : ℕ) : Distinct (.date start)
  | array (start? : Option ℕ) {items : List Value}
      (each : ∀ item ∈ items, Distinct item) : Distinct (.array start? items)
  | table (start? : Option ℕ) {entries : List (Key × Value)}
      (nodup : (names entries).Nodup)
      (each : ∀ entry ∈ entries, Distinct entry.2) :
      Distinct (.table start? entries)

theorem Value.Distinct.nodup {start? : Option ℕ} {entries : List (Key × Value)}
    (h : (Value.table start? entries).Distinct) : (names entries).Nodup := by
  cases h with
  | table _ nodup _ => exact nodup

theorem Value.Distinct.of_mem {start? : Option ℕ} {entries : List (Key × Value)}
    (h : (Value.table start? entries).Distinct) {entry : Key × Value}
    (hentry : entry ∈ entries) : entry.2.Distinct := by
  cases h with
  | table _ _ each => exact each entry hentry

/-- Every table at or under the node has each key once. -/
inductive Node.Distinct : Node → Prop
  | value {value : Value} (distinct : value.Distinct) : Distinct (.value value)
  | table (origin : Origin) {entries : List (Key × Node)}
      (nodup : (names entries).Nodup)
      (each : ∀ entry ∈ entries, Distinct entry.2) :
      Distinct (.table origin entries)
  | tables {list : List (Origin × List (Key × Node))}
      (each : ∀ table ∈ list, Distinct (.table table.1 table.2)) :
      Distinct (.tables list)

/-- The table and every table under it has each key once. -/
def Table.Distinct (table : Table) : Prop :=
  (Node.table table.1 table.2).Distinct

theorem Node.Distinct.of_mem {list : List Table}
    (h : (Node.tables list).Distinct) {table : Table} (htable : table ∈ list) :
    table.Distinct := by
  cases h with
  | tables each => exact each table htable

theorem Node.Distinct.concat {list : List Table} {last : Table}
    (h : ∀ table ∈ list, table.Distinct) (hlast : last.Distinct) :
    (Node.tables (list ++ [last])).Distinct := by
  refine .tables fun table htable => ?_
  rcases List.mem_append.mp htable with htable | htable
  · exact h table htable
  · exact List.mem_singleton.mp htable ▸ hlast

/-! ## Entries of a table -/

section Entries

variable {entries : List (Key × Node)} {name : String} {node : Node}

theorem mem_of_find? (h : find? entries name = some node) :
    ∃ key, (key, node) ∈ entries := by
  obtain ⟨entry, hentry, rfl⟩ := Option.map_eq_some_iff.mp h
  exact ⟨entry.1, List.mem_of_find?_eq_some hentry⟩

theorem find?_eq_none_iff : find? entries name = none ↔ name ∉ names entries := by
  simp [find?, names]

theorem names_replace : names (replace entries name node) = names entries := by
  rw [names, replace, List.map_map, names]
  refine List.map_congr_left fun entry _ => ?_
  simp only [Function.comp_apply]
  split <;> rfl

theorem mem_replace {entry : Key × Node} (h : entry ∈ replace entries name node) :
    entry.2 = node ∨ entry ∈ entries := by
  obtain ⟨old, hold, rfl⟩ := List.mem_map.mp h
  dsimp only
  split
  · exact Or.inl rfl
  · exact Or.inr hold

end Entries

namespace Table.Distinct

variable {table : Table} {key : Key} {name : String} {node : Node}

theorem empty (origin : Origin) : Table.Distinct (origin, []) :=
  .table origin List.nodup_nil fun _ hentry => absurd hentry List.not_mem_nil

theorem withOrigin (h : table.Distinct) (origin : Origin) :
    Table.Distinct (origin, table.2) := by
  cases h with
  | table _ nodup each => exact .table origin nodup each

theorem find? (h : table.Distinct)
    (hfind : Toml.find? table.2 name = some node) : node.Distinct := by
  obtain ⟨key, hmem⟩ := mem_of_find? hfind
  cases h with
  | table _ _ each => exact each _ hmem

theorem add (h : table.Distinct) (hfresh : Toml.find? table.2 key.text = none)
    (hnode : node.Distinct) (origin : Origin) :
    Table.Distinct (origin, table.2 ++ [(key, node)]) := by
  rw [find?_eq_none_iff] at hfresh
  cases h with
  | table _ nodup each =>
      refine .table origin (nodup_names_concat.mpr ⟨hfresh, nodup⟩) ?_
      intro entry hentry
      rcases List.mem_append.mp hentry with hentry | hentry
      · exact each entry hentry
      · exact List.mem_singleton.mp hentry ▸ hnode

theorem replace (h : table.Distinct) (hnode : node.Distinct) (origin : Origin) :
    Table.Distinct (origin, Toml.replace table.2 name node) := by
  cases h with
  | table _ nodup each =>
      refine .table origin (by rwa [names_replace]) fun entry hentry => ?_
      rcases mem_replace hentry with hnew | hold
      · exact hnew ▸ hnode
      · exact each entry hold

theorem remove (h : table.Distinct) (origin : Origin) :
    Table.Distinct (origin, Toml.remove table.2 name) := by
  have hsub : (Toml.remove table.2 name).Sublist table.2 := List.filter_sublist
  cases h with
  | table _ nodup each =>
      exact .table origin (nodup.sublist (hsub.map _)) fun entry hentry =>
        each entry (hsub.mem hentry)

end Table.Distinct

/-! ## Tables under construction -/

/-- Changing a table somewhere below keeps keys distinct if the change does so
there. -/
theorem Table.modify_distinct {path : List Key} {dotted : Bool}
    {f : Table → Option Table}
    (hf : ∀ table table', table.Distinct → f table = some table' →
      table'.Distinct)
    {table table' : Table} (h : table.Distinct)
    (hmodify : table.modify path dotted f = some table') : table'.Distinct := by
  induction path generalizing table table' with
  | nil => exact hf table table' h hmodify
  | cons key path ih =>
      obtain ⟨origin, entries⟩ := table
      rw [Table.modify] at hmodify
      cases hfind : Toml.find? entries key.text with
      | none =>
          simp only [hfind, Option.map_eq_some_iff] at hmodify
          obtain ⟨made, hmade, rfl⟩ := hmodify
          exact h.add hfind (ih (.empty _) hmade) origin
      | some node =>
          have hnode := h.find? hfind
          cases node with
          | value => simp [hfind] at hmodify
          | table o es =>
              simp only [hfind] at hmodify
              split at hmodify
              · cases hmodify
              · obtain ⟨inner, hinner, rfl⟩ := Option.map_eq_some_iff.mp hmodify
                have hes : Table.Distinct (o, es) := hnode
                exact h.replace (ih hes hinner) origin
          | tables list =>
              simp only [hfind] at hmodify
              cases hlast : list.getLast? with
              | none => simp [hlast] at hmodify
              | some last =>
                  simp only [hlast, Option.map_eq_some_iff] at hmodify
                  obtain ⟨inner, hinner, rfl⟩ := hmodify
                  have hinit : ∀ table ∈ list.dropLast, Table.Distinct table :=
                    fun _ htable => hnode.of_mem (List.dropLast_subset _ htable)
                  have hold := hnode.of_mem (List.mem_of_getLast? hlast)
                  exact h.replace (.concat hinit (ih hold hinner)) origin

theorem Table.Distinct.insert {table table' : Table} {path : List Key}
    {key : Key} {node : Node} (h : table.Distinct) (hnode : node.Distinct)
    (hinsert : table.insert path key node = some table') :
    table'.Distinct := by
  refine Table.modify_distinct (fun inner inner' hinner hchange => ?_) h hinsert
  dsimp only at hchange
  split_ifs at hchange with _ hold
  obtain rfl := Option.some.inj hchange
  exact hinner.add (Option.not_isSome_iff_eq_none.mp hold) hnode _

theorem Table.Distinct.entriesAt {path : List Key} {table : Table}
    (h : table.Distinct) (origin : Origin) :
    Table.Distinct (origin, table.entriesAt path) := by
  induction path generalizing table with
  | nil => exact h.withOrigin origin
  | cons key path ih =>
      rw [Table.entriesAt]
      split
      next hfind => exact ih (h.find? hfind)
      next list hfind =>
          split
          next hlast =>
              exact ih ((h.find? hfind).of_mem (List.mem_of_getLast? hlast))
          next => exact .empty _
      next => exact .empty _

/-- The whole table and the current one have each key once. -/
structure Draft.Distinct (draft : Draft) : Prop where
  root : draft.root.Distinct
  current : draft.current.Distinct

namespace Draft.Distinct

variable {draft draft' : Draft} {path : List Key} {key : Key}

theorem start : Draft.start.Distinct :=
  ⟨.empty _, .empty _⟩

theorem insert? {node : Node} (h : draft.Distinct) (hnode : node.Distinct)
    (hinsert : draft.insert? path key node = some draft') :
    draft'.Distinct := by
  obtain ⟨current, hcurrent, rfl⟩ := Option.map_eq_some_iff.mp hinsert
  exact ⟨h.root, h.current.insert hnode hcurrent⟩

theorem finish? (h : draft.Distinct) {table : Table}
    (hfinish : draft.finish? = some table) : table.Distinct := by
  rw [Draft.finish?] at hfinish
  split at hfinish
  next =>
      cases hfinish
      exact h.current
  next path key _ =>
      refine Table.modify_distinct (fun inner _ hinner hchange => ?_) h.root hfinish
      dsimp only at hchange
      split at hchange
      next =>
          split at hchange
          next list hfind =>
              cases hchange
              have hlist : ∀ table ∈ list, Table.Distinct table :=
                fun _ htable => (hinner.find? hfind).of_mem htable
              exact hinner.replace (.concat hlist h.current) _
          next => cases hchange
          next hfind =>
              cases hchange
              have hnone : ∀ table ∈ [], Table.Distinct table :=
                fun _ htable => absurd htable List.not_mem_nil
              exact hinner.add hfind (.concat hnone h.current) _
      next =>
          split_ifs at hchange with hold
          cases hchange
          exact hinner.add (Option.not_isSome_iff_eq_none.mp hold) h.current _

theorem openTable? {start : ℕ} (h : draft.Distinct)
    (hopen : draft.openTable? path key start = some draft') :
    draft'.Distinct := by
  simp only [Draft.openTable?, Option.bind_eq_bind, Option.bind_eq_some_iff]
    at hopen
  obtain ⟨finished, hfinished, root, hroot, hopen⟩ := hopen
  have hdistinct : root.Distinct := by
    refine Table.modify_distinct (fun inner _ hinner hsame => ?_)
      (h.finish? hfinished) hroot
    exact Option.some.inj hsame ▸ hinner
  split at hopen
  next =>
      cases hopen
      exact ⟨hdistinct, .empty _⟩
  next origin entries hfind =>
      split_ifs at hopen
      obtain ⟨rest, hrest, hopen⟩ := Option.bind_eq_some_iff.mp hopen
      cases hopen
      have htable : Table.Distinct (origin, entries) :=
        (hdistinct.entriesAt origin).find? hfind
      refine ⟨?_, htable.withOrigin _⟩
      refine Table.modify_distinct (fun inner _ hinner hremove => ?_) hdistinct
        hrest
      exact Option.some.inj hremove ▸ hinner.remove _
  next => cases hopen

theorem openListed? {start : ℕ} (h : draft.Distinct)
    (hopen : draft.openListed? path key start = some draft') :
    draft'.Distinct := by
  simp only [Draft.openListed?, Option.bind_eq_bind, Option.bind_eq_some_iff]
    at hopen
  obtain ⟨finished, hfinished, root, hroot, hopen⟩ := hopen
  cases hopen
  refine ⟨?_, .empty _⟩
  refine Table.modify_distinct (fun inner _ hinner hadd => ?_)
    (h.finish? hfinished) hroot
  split at hadd
  next hfind =>
      cases hadd
      have hempty : (Node.tables []).Distinct :=
        .tables fun _ htable => absurd htable List.not_mem_nil
      exact hinner.add hfind hempty _
  next =>
      cases hadd
      exact hinner
  next => cases hadd

end Draft.Distinct

/-! ## Values of nodes -/

theorem entriesToValue_eq (entries : List (Key × Node)) :
    entriesToValue entries =
      entries.map fun entry => (entry.1, entry.2.toValue) := by
  induction entries with
  | nil => rfl
  | cons entry entries ih => rw [entriesToValue, ih, List.map_cons]

theorem tablesToValue_eq (list : List Table) :
    tablesToValue list =
      list.map fun table => (Node.table table.1 table.2).toValue := by
  induction list with
  | nil => rfl
  | cons table list ih => rw [tablesToValue, ih, List.map_cons, Node.toValue]

theorem Node.Distinct.toValue {node : Node} (h : node.Distinct) :
    node.toValue.Distinct := by
  induction h with
  | value distinct => exact distinct
  | table origin nodup _ ih =>
      rw [Node.toValue, entriesToValue_eq]
      refine .table _ ?_ (List.forall_mem_map.mpr ih)
      rw [names, List.map_map]
      exact nodup
  | tables _ ih =>
      rw [Node.toValue, tablesToValue_eq]
      exact .array _ (List.forall_mem_map.mpr ih)

end Newsstand.Toml
