/-!
# JSON values

Values and their written form over several lines: each entry of a list or an object stands on a line
of its own, two spaces further in than the brackets around it. In texts only quotes, backslashes and
controls are escaped.
-/

namespace Newsstand

/-- A value. -/
inductive JsonValue where
  | number (n : Nat)
  | text (s : String)
  | list (items : List JsonValue)
  | object (entries : List (String × JsonValue))

namespace JsonValue

/-- The hexadecimal digit of a number below sixteen. -/
def hexDigit (n : Nat) : Char :=
  if n < 10 then Char.ofNat (0x30 + n) else Char.ofNat (0x61 + (n - 10))

/-- A character as it stands in a text. -/
def escape (c : Char) : List Char :=
  if c = '"' then ['\\', '"']
  else if c = '\\' then ['\\', '\\']
  else if c = '\n' then ['\\', 'n']
  else if c = '\r' then ['\\', 'r']
  else if c = '\t' then ['\\', 't']
  else if c.toNat = 0x08 then ['\\', 'b']
  else if c.toNat = 0x0C then ['\\', 'f']
  else if c.toNat < 0x20 then
    ['\\', 'u', '0', '0', hexDigit (c.toNat / 16), hexDigit (c.toNat % 16)]
  else [c]

/-- The written form of a text. -/
def quoted (s : String) : String :=
  String.ofList ('"' :: s.toList.flatMap escape ++ ['"'])

/-- The start of a line that stands `depth` levels in. -/
def newLine (depth : Nat) : String :=
  "\n" ++ String.ofList (List.replicate (2 * depth) ' ')

/-- Lines between brackets; without lines the brackets stand together. -/
def bracketed (first last : String) (depth : Nat) (lines : List String) : String :=
  if lines.isEmpty then first ++ last
  else
    first ++ newLine (depth + 1) ++ (("," ++ newLine (depth + 1)).intercalate lines)
      ++ newLine depth ++ last

mutual

/-- The written form of a value that stands `depth` levels in. -/
def textAt (depth : Nat) : JsonValue → String
  | .number n => toString n
  | .text s => quoted s
  | .list items => bracketed "[" "]" depth (itemTexts (depth + 1) items)
  | .object entries => bracketed "\x7b" "\x7d" depth (entryTexts (depth + 1) entries)

/-- The written forms of the items of a list. -/
def itemTexts (depth : Nat) : List JsonValue → List String
  | [] => []
  | item :: items => textAt depth item :: itemTexts depth items

/-- The written forms of the entries of an object. -/
def entryTexts (depth : Nat) : List (String × JsonValue) → List String
  | [] => []
  | (key, value) :: entries =>
    (quoted key ++ ": " ++ textAt depth value) :: entryTexts depth entries

end

/-- The written form of a value. -/
def pretty (j : JsonValue) : String :=
  textAt 0 j

end JsonValue

end Newsstand
