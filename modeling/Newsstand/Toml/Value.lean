/-!
# Values of TOML

What a TOML text says, with the places at which its parts start. A place counts characters from the
start of the text; a table that no header and no brace opens has none.
-/

namespace Newsstand.Toml

/-- A key and its place. -/
structure Key where
  text : String
  start : Nat
  deriving DecidableEq, Repr

/-- A value. Of floating-point numbers and of dates only the place is kept. -/
inductive Value where
  | string (start : Nat) (text : String)
  | integer (start : Nat) (n : Int)
  | float (start : Nat)
  | boolean (start : Nat) (b : Bool)
  | date (start : Nat)
  | array (start? : Option Nat) (items : List Value)
  | table (start? : Option Nat) (entries : List (Key × Value))

namespace Value

/-- The place of a value. -/
def start? : Value → Option Nat
  | .string start _ => some start
  | .integer start _ => some start
  | .float start => some start
  | .boolean start _ => some start
  | .date start => some start
  | .array start? _ => start?
  | .table start? _ => start?

/-- The value with a text that a table has under a key. -/
def lookup? (entries : List (Key × Value)) (name : String) : Option Value :=
  (entries.find? (·.1.text == name)).map (·.2)

end Value

end Newsstand.Toml
