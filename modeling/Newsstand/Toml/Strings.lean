import Newsstand.Text.Percent
import Newsstand.Toml.Blank

/-!
# Strings of TOML

A string stands in double quotes, with escapes, or in single quotes, as it is; three quotes instead
of one let it run over several lines.
-/

namespace Newsstand.Toml

open Reader Newsstand.Text

/-- The characters that stand for others behind a backslash. -/
def escaped? : Char → Option Char
  | 'b' => some '\x08'
  | 't' => some '\t'
  | 'n' => some '\n'
  | 'f' => some '\x0c'
  | 'r' => some '\r'
  | '"' => some '"'
  | '\\' => some '\\'
  | _ => none

/-- Reads `count` hexadecimal digits as a code point. -/
def codePoint (count : Nat) : Reader Char :=
  convert (do
    let digits := (← get).rest.take count
    if digits.length = count ∧ digits.all (fun c => (Percent.hexValue? c).isSome) = true then
      drop count
      return digits
    else fail)
    fun digits =>
      let code := digits.foldl (fun n c => n * 16 + (Percent.hexValue? c).getD 0) 0
      if code.isValidChar then some (Char.ofNat code) else none

/-- Reads what follows a backslash. -/
def escape : Reader Char := do
  match ← peek? with
  | none => fail
  | some 'u' => do next; codePoint 4
  | some 'U' => do next; codePoint 8
  | some c =>
    match escaped? c with
    | some d => do next; return d
    | none => do
      if c.toNat < 128 then next
      fail

/-- Reads the inside of a string in double quotes and the closing quote; `fuel` bounds the number of
its parts. -/
def basicFrom (fuel : Nat) (done : List (List Char)) : Reader (List Char) := do
  let plain ← takeWhile fun c => isPlain c && c != '"' && c != '\\'
  match fuel with
  | 0 => fail
  | fuel + 1 =>
    match ← peek? with
    | some '"' => do
      next
      return (plain :: done).reverse.flatten
    | some '\\' => do
      next
      let c ← escape
      basicFrom fuel ([c] :: plain :: done)
    | _ => fail

/-- Passes over blanks and line ends; `fuel` bounds the number of lines. -/
def blankRest (fuel : Nat) : Reader Unit :=
  match fuel with
  | 0 => do let _ ← takeWhile fun c => isBlank c || c == '\n'
  | fuel + 1 => do
    let _ ← takeWhile fun c => isBlank c || c == '\n'
    match (← get).rest with
    | '\r' :: '\n' :: _ => do drop 2; blankRest fuel
    | _ => return ()

/-- Passes over a backslash at the end of a line, with the blanks behind it and the blank lines and
blanks that follow; stops if something else follows. -/
def lineContinuation : Reader Unit := do
  char '\\'
  blanks
  newline
  blankRest (← bound)

/-- Reads one part of a string of several lines in double quotes; none if something else follows. -/
def longBasicPart : Reader (Option (List Char)) := do
  match (← get).rest with
  | '\\' :: _ =>
    match ← optional lineContinuation with
    | some () => return some []
    | none => do
      next
      let c ← escape
      return some [c]
  | '\n' :: _ => do drop 1; return some ['\n']
  | '\r' :: '\n' :: _ => do drop 2; return some ['\n']
  | _ =>
    let plain ← takeWhile fun c => isPlain c && c != '"' && c != '\\'
    return if plain = [] then none else some plain

/-- The number of quotes that come next. -/
def quotesAhead (quote : Char) : Reader Nat := do
  return ((← get).rest.takeWhile (· == quote)).length

/-- Reads the inside of a string of several lines in double quotes and the closing quotes. Up to two
quotes may stand in it, also at its end; `fuel` bounds the number of its parts. -/
def longBasicFrom (fuel : Nat) (done : List (List Char)) : Reader (List Char) := do
  match fuel with
  | 0 => fail
  | fuel + 1 =>
    match ← longBasicPart with
    | some part => longBasicFrom fuel (part :: done)
    | none =>
      match ← quotesAhead '"' with
      | 0 => fail
      | n + 1 =>
        if n + 1 < 3 then
          if ((← get).rest.drop (n + 1)).isEmpty then fail
          else do
            drop (n + 1)
            longBasicFrom fuel (List.replicate (n + 1) '"' :: done)
        else do
          let inside := min (n + 1 - 3) 2
          drop (inside + 3)
          return (List.replicate inside '"' :: done).reverse.flatten

/-- Reads the inside of a string of several lines in single quotes and the closing quotes; `fuel`
bounds the number of its parts. -/
def longLiteralFrom (fuel : Nat) (done : List (List Char)) : Reader (List Char) := do
  match fuel with
  | 0 => fail
  | fuel + 1 =>
    match (← get).rest with
    | '\n' :: _ => do drop 1; longLiteralFrom fuel (['\n'] :: done)
    | '\r' :: '\n' :: _ => do drop 2; longLiteralFrom fuel (['\n'] :: done)
    | rest =>
      let plain := rest.takeWhile fun c => isPlain c && c != '\''
      if plain ≠ [] then do
        drop plain.length
        longLiteralFrom fuel (plain :: done)
      else
        match ← quotesAhead '\'' with
        | 0 => fail
        | n + 1 =>
          if n + 1 < 3 then
            let follows := (rest.drop (n + 1)).head?.any fun c =>
              isPlain c || c == '\n' || (rest.drop (n + 1)).take 2 == ['\r', '\n']
            if follows then do
              drop (n + 1)
              longLiteralFrom fuel (List.replicate (n + 1) '\'' :: done)
            else fail
          else do
            let inside := min (n + 1 - 3) 2
            drop (inside + 3)
            return (List.replicate inside '\'' :: done).reverse.flatten

/-- Reads a string of one line in double quotes. -/
def basicString : Reader (List Char) := do
  char '"'
  commit (do basicFrom (← bound) [])

/-- Reads a string of one line in single quotes. -/
def literalString : Reader (List Char) := do
  char '\''
  commit (do
    let text ← takeWhile fun c => isPlain c && c != '\''
    char '\''
    return text)

/-- Reads a string of one or several lines. -/
def string : Reader (List Char) := do
  if ← ahead ['"', '"', '"'] then
    drop 3
    let _ ← optional newline
    commit (do longBasicFrom (← bound) [])
  else if ← ahead ['\'', '\'', '\''] then
    drop 3
    let _ ← optional newline
    commit (do longLiteralFrom (← bound) [])
  else if ← ahead ['"'] then basicString
  else literalString

end Newsstand.Toml
