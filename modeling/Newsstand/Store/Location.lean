import Newsstand.Directory
import Newsstand.Store.Fault
import Newsstand.Text.Percent
import Newsstand.Text.Split

/-!
# Locations of databases

A path is read as part of a connection string. In it a question mark starts parameters, percent
signs encode octets, and a scheme in front is taken off. A name without a file stands for a database
in memory, and a name that starts with `file:` is a URI. What is left is the path of a file, in
which a part that goes up takes back the part before it, whether or not that exists.
-/

namespace Newsstand

open Text

/-- Where a database lies: in memory, or in a file, whose path from the working directory is given
by its parts; it may start by going up. -/
inductive Location where
  | memory
  | file (parts : List String)
  deriving DecidableEq, Repr

namespace Location

/-- A text without the repetitions of a word in front of it; `fuel` bounds their number. -/
def dropRepeated (word : List Char) : Nat → List Char → List Char
  | 0, cs => cs
  | fuel + 1, cs =>
    if word.isPrefixOf cs then dropRepeated word fuel (cs.drop word.length) else cs

/-- The database and the parameters that a connection string for a path names. -/
def connection (path : String) : List Char × List Char :=
  let text := ("sqlite:" ++ path ++ "?mode=rwc").toList
  let text := dropRepeated "sqlite://".toList text.length text
  let text := dropRepeated "sqlite:".toList text.length text
  (text.takeWhile (· != '?'), (text.dropWhile (· != '?')).drop 1)

/-- The text that a part of a parameter stands for. -/
def formText (cs : List Char) : String :=
  Utf8.decodeLossy (Percent.octets (cs.map fun c => if c == '+' then ' ' else c))

/-- The names and values of parameters. -/
def parameters (cs : List Char) : List (String × String) :=
  ((splitAtChar '&' cs).filter (!·.isEmpty)).map fun part =>
    (formText (part.takeWhile (· != '=')), formText ((part.dropWhile (· != '=')).drop 1))

/-- The values that a parameter may have; none if there is no such parameter, and the empty list if
it may have any. -/
def valuesOf? : String → Option (List String)
  | "mode" => some ["ro", "rw", "rwc", "memory"]
  | "cache" => some ["private", "shared"]
  | "immutable" => some ["true", "1", "false", "0"]
  | "vfs" => some []
  | _ => none

/-- Checks the parameters one after another; the last file system that they ask for is given. -/
def checkParameters (system? : Option String) :
    List (String × String) → Except ConnectionFault (Option String)
  | [] => .ok system?
  | (name, value) :: rest =>
    match valuesOf? name with
    | none => .error (.unknownParameter name)
    | some [] => checkParameters (some value) rest
    | some values =>
      if values.contains value then checkParameters system? rest
      else .error (.unknownValue name value)

/-- Where a part of a path leads: nowhere else, back, or further in. Above the root there is only the
root, while a path from the working directory may start by going up. -/
def enter (done : List String) (part : String) : List String :=
  if part == "" || part == "." then done
  else if part == ".." && done == [rootPart] then done
  else if part == ".." && done.any (· != "..") then done.dropLast
  else done ++ [part]

/-- Where a path leads, without a look at what lies on the way. -/
def resolve (path : String) : List String :=
  (pathParts path).foldl enter (pathStart path)

/-- The location that a path of a file names. -/
def ofFile (cs : List Char) : Except ConnectionFault Location :=
  if cs = [] ∨ cs = ":memory:".toList then .ok .memory
  else .ok (.file (resolve (String.ofList cs)))

/-- The location that a URI names behind its scheme. A host has to be this one; parameters and a
fragment do not count. -/
def ofUri (cs : List Char) : Except ConnectionFault Location :=
  let path (cs : List Char) :=
    let octets := Percent.octets (cs.takeWhile fun c => c != '?' && c != '#')
    ofFile (Utf8.decodeLossy (octets.takeWhile (· != 0))).toList
  match cs with
  | '/' :: '/' :: rest =>
    let host := rest.takeWhile (· != '/')
    if host = [] ∨ host = "localhost".toList then path (rest.drop host.length)
    else .error (.unknownHost (String.ofList host))
  | cs => path cs

/-- The location that a name of a database stands for. -/
def ofName (cs : List Char) : Except ConnectionFault Location :=
  if cs.contains '\x00' then .error .zeroInPath
  else if "file:".toList.isPrefixOf cs then ofUri (cs.drop 5)
  else ofFile cs

/-- The location that a path names. -/
def ofPath (path : String) : Except ConnectionFault Location := do
  let (database, written) := connection path
  let octets := Percent.octets database
  let name ←
    if database = ":memory:".toList then pure ":memory:"
    else
      match Utf8.breachFrom? 0 octets with
      | some breach => throw (.malformedPath breach)
      | none => pure (Utf8.decodeLossy octets)
  match ← checkParameters none (parameters written) with
  | some system => throw (.unknownFileSystem system)
  | none => ofName name.toList

end Location

end Newsstand
