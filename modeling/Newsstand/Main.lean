import Newsstand.CommandLine.Run

/-!
# The program

Reads the files that a run needs, makes the run and prints what it comes to. Feeds out on the
network are not reached from here, and databases last as long as the run.
-/

namespace Newsstand

/-- The files among the given paths that can be read. -/
def readFiles (paths : List String) : IO (List (String × List UInt8)) :=
  paths.filterMapM fun (path : String) => do
    try
      return some (path, (← IO.FS.readBinFile path).toList)
    catch _ => return none

end Newsstand

open Newsstand in
/-- Makes a run with the arguments of the command line. -/
def main (arguments : List String) : IO UInt32 := do
  let home? ← IO.getEnv "HOME"
  let files ← readFiles (Machine.filesRead home? arguments)
  let machine : Machine := ⟨.start (.ofFiles files), .unreachable, home?⟩
  let result := (machine.run arguments).1
  IO.print result.output
  match result.complaint? with
  | some complaint => IO.eprintln complaint
  | none => pure ()
  return result.exit.toUInt32
