import Newsstand.Toml.Value

/-!
# Tables under construction

The tables that headers and dotted keys build up. A table is implicit as long as only longer headers
or dotted keys have named it, and dotted if a dotted key has made it; this decides who may add to
it. Adding gives none where the text would define something twice.
-/

namespace Newsstand.Toml

/-- How a table has come about. -/
structure Origin where
  start? : Option Nat
  isImplicit : Bool
  isDotted : Bool
  deriving DecidableEq, Repr

/-- What stands under a key while a text is read. -/
inductive Node where
  | value (value : Value)
  | table (origin : Origin) (entries : List (Key × Node))
  | tables (list : List (Origin × List (Key × Node)))

/-- A table with its origin. -/
abbrev Table := Origin × List (Key × Node)

namespace Table

/-- A table that a header or a brace opens. -/
def opened (start? : Option Nat) : Table :=
  (⟨start?, false, false⟩, [])

/-- A table that a longer key makes. -/
def inferred (dotted : Bool) : Table :=
  (⟨none, true, dotted⟩, [])

end Table

/-- What stands under a name. -/
def find? (entries : List (Key × Node)) (name : String) : Option Node :=
  (entries.find? (·.1.text == name)).map (·.2)

/-- The entries with another node under the key of a name. -/
def replace (entries : List (Key × Node)) (name : String) (node : Node) : List (Key × Node) :=
  entries.map fun (key, old) => if key.text == name then (key, node) else (key, old)

/-- The entries without the one of a name. -/
def remove (entries : List (Key × Node)) (name : String) : List (Key × Node) :=
  entries.filter (·.1.text != name)

/-- Changes the table to which a path leads from a table; tables on the way that are missing are
made, and a list of tables leads to its last one. By a dotted key no table is entered that is not
implicit. -/
def Table.modify (table : Table) (path : List Key) (dotted : Bool)
    (f : Table → Option Table) : Option Table :=
  match path with
  | [] => f table
  | key :: path =>
    let (origin, entries) := table
    match find? entries key.text with
    | none =>
      (Table.modify (Table.inferred dotted) path dotted f).map fun (o, es) =>
        (origin, entries ++ [(key, .table o es)])
    | some (.value _) => none
    | some (.table o es) =>
      if dotted && !o.isImplicit then none
      else
        (Table.modify (o, es) path dotted f).map fun (o, es) =>
          (origin, replace entries key.text (.table o es))
    | some (.tables list) =>
      match list.getLast? with
      | none => none
      | some last =>
        (Table.modify last path dotted f).map fun last =>
          (origin, replace entries key.text (.tables (list.dropLast ++ [last])))

/-- The entries of the table to which a path leads. -/
def Table.entriesAt (table : Table) : List Key → List (Key × Node)
  | [] => table.2
  | key :: path =>
    match find? table.2 key.text with
    | some (.table o es) => Table.entriesAt (o, es) path
    | some (.tables list) =>
      match list.getLast? with
      | some last => Table.entriesAt last path
      | none => []
    | _ => []

/-- Adds a value under a key behind a path; the path has to lead to a table that dotted keys have
made, and the key has to be new. -/
def Table.insert (table : Table) (path : List Key) (key : Key) (node : Node) : Option Table :=
  table.modify path true fun (origin, entries) =>
    if origin.isDotted == path.isEmpty then none
    else if (find? entries key.text).isSome then none
    else some (origin, entries ++ [(key, node)])

/-- A text that is being read: the whole table without the table of the current header, that table,
its path with its last key, and whether it belongs to a list of tables. -/
structure Draft where
  root : Table
  current : Table
  header? : Option (List Key × Key)
  isListed : Bool

namespace Draft

/-- The state before the first statement. -/
def start : Draft :=
  ⟨Table.opened (some 0), Table.opened (some 0), none, false⟩

/-- Adds a value to the current table. -/
def insert? (draft : Draft) (path : List Key) (key : Key) (node : Node) : Option Draft :=
  (draft.current.insert path key node).map fun current => { draft with current }

/-- The whole table with the current one in its place. -/
def finish? (draft : Draft) : Option Table :=
  match draft.header? with
  | none => some draft.current
  | some (path, key) =>
    draft.root.modify path false fun (origin, entries) =>
      let (o, es) := draft.current
      if draft.isListed then
        match find? entries key.text with
        | some (.tables list) =>
          some (origin, replace entries key.text (.tables (list ++ [(o, es)])))
        | some _ => none
        | none => some (origin, entries ++ [(key, .tables [(o, es)])])
      else if (find? entries key.text).isSome then none
      else some (origin, entries ++ [(key, .table o es)])

/-- Takes the header of a table, which starts at `start`. A table that is only implicit so far
becomes the current one; no other may be there. -/
def openTable? (draft : Draft) (path : List Key) (key : Key) (start : Nat) : Option Draft := do
  let root ← draft.finish?
  let root ← root.modify path false some
  match find? (root.entriesAt path) key.text with
  | none => some ⟨root, Table.opened (some start), some (path, key), false⟩
  | some (.table origin entries) =>
    if origin.isImplicit && !origin.isDotted then
      let root ← root.modify path false fun (o, es) => some (o, remove es key.text)
      some ⟨root, (⟨some start, false, false⟩, entries), some (path, key), false⟩
    else none
  | some _ => none

/-- Takes the header of a table in a list, which starts at `start`. -/
def openListed? (draft : Draft) (path : List Key) (key : Key) (start : Nat) : Option Draft := do
  let root ← draft.finish?
  let root ← root.modify path false fun (origin, entries) =>
    match find? entries key.text with
    | none => some (origin, entries ++ [(key, .tables [])])
    | some (.tables _) => some (origin, entries)
    | some _ => none
  some ⟨root, Table.opened (some start), some (path, key), true⟩

end Draft

mutual

/-- The value that a node stands for. -/
def Node.toValue : Node → Value
  | .value value => value
  | .table origin entries => .table origin.start? (entriesToValue entries)
  | .tables list => .array (list.head?.bind (·.1.start?)) (tablesToValue list)

/-- The entries of a table with their values. -/
def entriesToValue : List (Key × Node) → List (Key × Value)
  | [] => []
  | (key, node) :: entries => (key, node.toValue) :: entriesToValue entries

/-- The values of a list of tables. -/
def tablesToValue : List (Origin × List (Key × Node)) → List Value
  | [] => []
  | (origin, entries) :: list =>
    .table origin.start? (entriesToValue entries) :: tablesToValue list

end

end Newsstand.Toml
