import Newsstand.Toml.Dates
import Newsstand.Toml.Numbers
import Newsstand.Toml.Place
import Newsstand.Toml.Strings
import Newsstand.Toml.Tree

/-!
# Reading TOML

A text is a sequence of statements, one a line: a header that opens a table, or a key with a value.
Values nest in arrays and inline tables up to a fixed depth. A text that cannot be read has a fault
at one place; a statement that defines something again has it where the statement starts.
-/

namespace Newsstand.Toml

open Reader

/-- The depth that values and dotted keys may reach. -/
def maxDepth : Nat := 80

/-! ### Keys -/

/-- Whether a character may stand in a key without quotes. -/
def inBareKey (c : Char) : Bool :=
  c.isAlphanum || c == '_' || c == '-'

/-- Reads one part of a dotted key. -/
def simpleKey : Reader Key := do
  let start ← position
  let text ←
    match ← peek? with
    | some '"' => basicString
    | some '\'' => literalString
    | _ => do
      let first ← one inBareKey
      let rest ← takeWhile inBareKey
      pure (first :: rest)
  return ⟨String.ofList text, start⟩

/-- Reads a part of a dotted key with the blanks around it. -/
def keyPart : Reader Key := do
  blanks
  let key ← simpleKey
  blanks
  return key

/-- Reads a dotted key as its path and its last part. A fault in its first part stays where it is; a
dot without a part behind it ends the key. -/
def dottedKey : Reader (List Key × Key) := do
  let start ← position
  let first ← keyPart
  let rest ← many maxDepth [] (do char '.'; keyPart)
  let keys := first :: rest
  if maxDepth ≤ keys.length then failAt start
  return (keys.dropLast, keys.getLastD first)

/-! ### Values -/

/-- Reads a date, a float or an integer, which all may start with a digit. -/
def numeric : Reader Value := do
  let start ← position
  orElse (do dateTime; return .date start)
    (orElse (do float; return .float start)
      (do return .integer start (← integer)))

/-- Reads a value that is no array and no inline table. -/
def scalar : Reader Value := do
  let start ← position
  match ← peek? with
  | some '"' => return .string start (String.ofList (← string))
  | some '\'' => return .string start (String.ofList (← string))
  | some 't' => do commit (word "true".toList); return .boolean start true
  | some 'f' => do commit (word "false".toList); return .boolean start false
  | some 'i' => do word "inf".toList; return .float start
  | some 'n' => do word "nan".toList; return .float start
  | some '+' => numeric
  | some '-' => numeric
  | some '_' => do return .integer start (← integer)
  | some '.' => do float; return .float start
  | some c => if c.isDigit then numeric else fail
  | none => fail

/-- The items of an array with the blank lines around each, up to the closing bracket; a comma may
follow the last one. A fault that is not final ends the items. -/
def arrayItems (value : Reader Value) : Reader (List Value) := do
  let fuel ← bound
  if ← ahead [']'] then return []
  let items ← separated fuel ',' (do
    blankLines fuel
    let item ← value
    blankLines fuel
    return item)
  if !items.isEmpty then
    let _ ← optional (char ',')
  blankLines fuel
  return items

/-- A key of an inline table with its value. -/
def pair (value : Reader Value) : Reader (List Key × Key × Value) := do
  let (path, key) ← dottedKey
  commit (do
    char '='
    blanks
    let item ← value
    blanks
    return (path, key, item))

/-- Reads an array whose items `value` reads. -/
def array (value : Reader Value) : Reader Value := do
  let start ← position
  next
  commit (do
    let items ← arrayItems value
    char ']'
    return .array (some start) items)

/-- Reads an inline table whose values `value` reads. -/
def inlineTable (value : Reader Value) : Reader Value := do
  let start ← position
  next
  commit (do
    let inside ← position
    let pairs ← separated (← bound) ',' (pair value)
    blanks
    let table := pairs.foldlM (fun table (path, key, item) =>
      Table.insert table path key (.value item)) (Table.opened (some start))
    match table with
    | none => failAt inside
    | some (origin, entries) => do
      char '\x7d'
      return (Node.table origin entries).toValue)

/-- Reads an array, an inline table or another value, as the next character tells. -/
def byOpening (array table : Reader Value) : Reader Value := do
  match ← peek? with
  | some '[' => array
  | some '\x7b' => table
  | _ => scalar

/-- Reads a value; `depth` bounds the nesting. -/
def value (depth : Nat) : Reader Value :=
  match depth with
  | 0 => byOpening (commit fail) (commit fail)
  | depth + 1 => byOpening (array (value depth)) (inlineTable (value depth))

/-! ### Statements -/

/-- Reads the header of a table: whether the table is one of a list, and its dotted key. -/
def headerLine : Reader (Bool × List Key × Key) := do
  if ((← get).rest.drop 1).isEmpty then fail
  let listed ← ahead ['[', '[']
  drop (if listed then 2 else 1)
  let (path, key) ← dottedKey
  char ']'
  if listed then char ']'
  lineTrailing
  return (listed, path, key)

/-- Takes the header of a table into the draft. -/
def header (draft : Draft) : Reader Draft := do
  let start ← position
  let (listed, path, key) ← headerLine
  match if listed then draft.openListed? path key start else draft.openTable? path key start with
  | some draft => return draft
  | none => failAt start

/-- Takes a key with a value into the draft. -/
def assignment (draft : Draft) : Reader Draft := do
  let start ← position
  let (path, key) ← dottedKey
  char '='
  blanks
  let item ← value (maxDepth - 1)
  lineTrailing
  match draft.insert? path key (.value item) with
  | some draft => return draft
  | none => failAt start

/-- Takes the statements of a text into the draft; `fuel` bounds their number. -/
def statements (fuel : Nat) (draft : Draft) : Reader Draft :=
  match fuel with
  | 0 => do blanks; return draft
  | fuel + 1 => do
    blanks
    match ← peek? with
    | none => return draft
    | some '#' => do comment; lineEnd; statements fuel draft
    | some '[' => do statements fuel (← header draft)
    | some '\n' => do newline; statements fuel draft
    | some '\r' => do newline; statements fuel draft
    | some _ => do statements fuel (← assignment draft)

/-- Reads a text into its entries; a fault is the number of characters before it. -/
def readEntries (cs : List Char) : Except Nat (List (Key × Value)) :=
  let start : Cursor :=
    match cs with
    | '\uFEFF' :: rest => ⟨1, rest, cs.length⟩
    | cs => ⟨0, cs, cs.length⟩
  match (statements (cs.length + 1) Draft.start).run start with
  | .error stop => .error stop.pos
  | .ok (draft, _) =>
    match draft.finish? with
    | some (_, entries) => .ok (entriesToValue entries)
    | none => .error 0

end Newsstand.Toml
