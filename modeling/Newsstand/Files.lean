import Newsstand.Text.Utf8

/-!
# Files

What reading a file gives: its octets, or the reason why there are none. A text file is one whose
octets are well-formed UTF-8.
-/

namespace Newsstand

open Text

/-- Why a file cannot be read. -/
inductive FileFault where
  /-- Nothing stands at the path. -/
  | missing
  /-- A directory stands at the path. -/
  | directory
  /-- The path leads through a file that is no directory. -/
  | throughFile
  /-- A part of the path is longer than a name may be. -/
  | nameTooLong
  /-- The octets are no text. -/
  | notText
  deriving DecidableEq, Repr

/-- The message of a fault. -/
def FileFault.message : FileFault → String
  | .missing => "No such file or directory (os error 2)"
  | .directory => "Is a directory (os error 21)"
  | .throughFile => "Not a directory (os error 20)"
  | .nameTooLong => "File name too long (os error 36)"
  | .notText => "stream did not contain valid UTF-8"

/-- What reading a file gives. -/
abbrev FileRead := Except FileFault (List UInt8)

/-- The text of a file. -/
def FileRead.text (file : FileRead) : Except FileFault String := do
  match Utf8.decode? (← file) with
  | some text => return text
  | none => throw .notText

end Newsstand
