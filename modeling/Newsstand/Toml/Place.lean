import Newsstand.Text.Blank

/-!
# Lines and columns

The line and column of a place in a text, both counted from one. A column counts characters; in
front of a character beyond ASCII it counts octets. The end of the text lies on the line of its last
character.
-/

namespace Newsstand.Toml

open Newsstand.Text

/-- A line and a column. -/
structure Place where
  line : Nat
  column : Nat
  deriving DecidableEq, Repr

/-- The line on which the last of some characters would be followed by another one, and what stands
on it already, the last character first. -/
def lineOf (line : Nat) (current : List Char) : List Char → Nat × List Char
  | [] => (line, current)
  | c :: rest => if c = '\n' then lineOf (line + 1) [] rest else lineOf line (c :: current) rest

/-- The place behind the first `pos` characters of a text. -/
def Place.of (text : List Char) (pos : Nat) : Place :=
  match text.drop pos with
  | c :: _ =>
    let (line, before) := lineOf 1 [] (text.take pos)
    ⟨line, (if c.toNat < 128 then before.length else byteLength before) + 1⟩
  | [] =>
    let (line, before) := lineOf 1 [] text.dropLast
    ⟨line, before.length + (if text = [] then 1 else 2)⟩

end Newsstand.Toml
