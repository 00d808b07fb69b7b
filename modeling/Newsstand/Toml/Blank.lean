import Newsstand.Toml.Cursor

/-!
# Blanks, line ends and comments

A line ends at a line feed, with or without a carriage return before it. A comment runs from a
number sign to the end of its line and holds no control characters but tabs.
-/

namespace Newsstand.Toml

open Reader

/-- The characters that separate the parts of a line. -/
def isBlank (c : Char) : Bool :=
  c == ' ' || c == '\t'

/-- Whether a character may stand in a text: every character but the control characters other than
the tab. -/
def isPlain (c : Char) : Bool :=
  c == '\t' || (0x20 ≤ c.toNat && c != '\x7f')

/-- Passes over blanks. -/
def blanks : Reader Unit := do
  let _ ← takeWhile isBlank

/-- Takes a line end. -/
def newline : Reader Unit := do
  match (← get).rest with
  | '\n' :: _ => drop 1
  | '\r' :: '\n' :: _ => drop 2
  | _ => fail

/-- Takes a comment up to the end of its line. -/
def comment : Reader Unit := do
  char '#'
  let _ ← takeWhile isPlain

/-- Takes a line end or the end of the text. -/
def lineEnd : Reader Unit := do
  match ← peek? with
  | none => return ()
  | some _ => newline

/-- Takes what may follow a statement on its line. -/
def lineTrailing : Reader Unit := do
  blanks
  let _ ← optional comment
  lineEnd

/-- Passes over blanks, comments and line ends; `fuel` bounds the number of lines. -/
def blankLines (fuel : Nat) : Reader Unit := do
  blanks
  match fuel with
  | 0 => return ()
  | fuel + 1 =>
    match ← peek? with
    | some '#' => do comment; newline; blankLines fuel
    | some '\n' => do newline; blankLines fuel
    | some '\r' => do newline; blankLines fuel
    | _ => return ()

end Newsstand.Toml
