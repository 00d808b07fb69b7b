import Newsstand.Files
import Newsstand.Text.Blank
import Newsstand.Text.Split

/-!
# Directories

The files that are known, and what a path leads to that starts at the working directory or at the
root. A path is walked part by part; every part but the last has to be a directory, and a directory
is whatever lies on the way to a file. All else counts as missing, the empty device apart.
-/

namespace Newsstand

open Text

/-- Files, each under the parts of its path; a path from the root starts with a slash as a part of
its own. -/
structure Directory where
  files : List (List String × List UInt8)
  deriving DecidableEq, Repr

/-- The parts of a path between its slashes. -/
def pathParts (path : String) : List String :=
  (splitAtChar '/' path.toList).map String.ofList

/-- The part that stands for the root. -/
def rootPart : String := "/"

/-- Where a path starts: at the root or at the working directory. -/
def pathStart (path : String) : List String :=
  if path.startsWith "/" then [rootPart] else []

/-- The largest number of octets of a name. -/
def nameLimit : Nat := 255

namespace Directory

/-- The directory with files at the given paths. -/
def ofFiles (files : List (String × List UInt8)) : Directory :=
  ⟨files.map fun (path, octets) =>
    (pathStart path ++ (pathParts path).filter (· != ""), octets)⟩

/-- Whether a directory stands at a path. -/
def isDirectory (d : Directory) (parts : List String) : Bool :=
  parts.isEmpty || parts == [rootPart] || d.files.any fun (file, _) =>
    parts.isPrefixOf file && parts.length < file.length

/-- Walks along a path from the directory `here`. -/
def walk (d : Directory) (here : List String) : List String → Except FileFault (List String)
  | [] => .ok here
  | part :: parts =>
    if part == "" || part == "." then d.walk here parts
    else if part == ".." then
      if here.isEmpty then .error .missing
      else d.walk (if here == [rootPart] then here else here.dropLast) parts
    else if nameLimit < byteLength part.toList then .error .nameTooLong
    else
      let there := here ++ [part]
      if parts.isEmpty || d.isDirectory there then d.walk there parts
      else if (d.files.lookup there).isSome then .error .throughFile
      else .error .missing

/-- Reads the file at a path. -/
def read (d : Directory) (path : String) : FileRead := do
  if path == "/dev/null" then return []
  if path.isEmpty then throw .missing
  let there ← d.walk (pathStart path) (pathParts path)
  match d.files.lookup there with
  | some octets => return octets
  | none => throw (if d.isDirectory there then .directory else .missing)

end Directory

end Newsstand
