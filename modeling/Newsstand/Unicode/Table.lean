import Newsstand.Text.Percent
import Newsstand.Text.Split

/-!
# Tables of character properties

A table is written as rows of text. An entry names a code point, a run `first-last` of them or
every second one of a run `first~last`, all in hexadecimal; values may follow a colon, joined by
plus signs. Entries are separated by spaces.
-/

namespace Newsstand.Unicode

open Newsstand.Text

/-- A run of code points, one in `step` of them, with the values that belong to it. -/
structure Row where
  first : Nat
  last : Nat
  step : Nat
  values : List Nat
  deriving DecidableEq, Repr

/-- Whether a code point belongs to a row. -/
def Row.covers (row : Row) (code : Nat) : Bool :=
  row.first ≤ code && code ≤ row.last && (code - row.first) % row.step == 0

/-- The number that hexadecimal digits write. -/
def readHex (digits : List Char) : Nat :=
  digits.foldl (fun n c => n * 16 + (Percent.hexValue? c).getD 0) 0

/-- Reads an entry's run of code points. -/
def readRun (values : List Nat) (cs : List Char) : Row :=
  match splitAtChar '-' cs with
  | [first, last] => ⟨readHex first, readHex last, 1, values⟩
  | _ =>
    match splitAtChar '~' cs with
    | [first, last] => ⟨readHex first, readHex last, 2, values⟩
    | _ => ⟨readHex cs, readHex cs, 1, values⟩

/-- Reads an entry. -/
def readRow (cs : List Char) : Row :=
  match splitAtChar ':' cs with
  | [run, values] => readRun ((splitAtChar '+' values).map readHex) run
  | _ => readRun [] cs

/-- Reads the rows of a table. -/
def readRows (lines : List String) : List Row :=
  lines.flatMap fun line => (splitAtChar ' ' line.toList).map readRow

/-- The first row of a table that covers a code point. -/
def lookup? (rows : List Row) (code : Nat) : Option Row :=
  rows.find? (·.covers code)

/-- Whether a table covers a code point. -/
def covers (rows : List Row) (code : Nat) : Bool :=
  rows.any (·.covers code)

end Newsstand.Unicode
