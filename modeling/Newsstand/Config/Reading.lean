import Newsstand.Config.Warnings
import Newsstand.Files
import Newsstand.Text.Blank
import Newsstand.Toml.Reading

/-!
# Reading a configuration

A configuration is a TOML text, and most often a file. A file that is not there and a blank text
give the defaults. Whatever is read in part, the warnings about it are given first.
-/

namespace Newsstand

open Text

/-- Why there is no configuration. -/
inductive ConfigFault where
  /-- The file cannot be read. -/
  | file (fault : FileFault)
  /-- The text is not TOML or a value does not fit. -/
  | text (place : Toml.Place)
  /-- The file has more octets than a configuration may have. -/
  | tooLarge (size : Nat)
  deriving DecidableEq, Repr

/-- The largest number of octets of a configuration. -/
def Config.maxSize : Nat := 1048576

/-- The first line of the message of a fault. -/
def ConfigFault.message : ConfigFault → String
  | .file fault => s!"Failed to read config file: {fault.message}"
  | .text place =>
    s!"Invalid TOML in config file: TOML parse error at line {place.line}, column {place.column}"
  | .tooLarge size =>
    s!"Config file too large: Config file is {size} bytes (max {Config.maxSize} bytes)"

/-- The report on a configuration that was read. -/
def Config.loaded (config : Config) : LogEvent :=
  ⟨.info, "Loaded configuration",
    [("backend", config.store.backend.name), ("group", config.fetch.group)]⟩

/-- Reads a configuration from a text. -/
def Config.read (text : String) : Except ConfigFault Config × Log :=
  let cs := text.toList
  if cs.all isBlank then (.ok {}, [])
  else
    match Toml.readEntries cs with
    | .error pos => (.error (.text (.of cs pos)), [])
    | .ok entries =>
      let warnings := Config.warnings entries
      match Config.decode entries with
      | .error place? => (.error (.text (.of cs (place?.getD 0))), warnings)
      | .ok config => (.ok config, warnings ++ [config.loaded])

/-- Reads a configuration from the file at a path. -/
def Config.load (path : String) (file : FileRead) : Except ConfigFault Config × Log :=
  match file with
  | .error .missing =>
    (.ok {}, [⟨.debug, "No config file found, using defaults", [("path", path)]⟩])
  | .error fault => (.error (.file fault), [])
  | .ok octets =>
    if maxSize < octets.length then (.error (.tooLarge octets.length), [])
    else
      match FileRead.text file with
      | .error fault => (.error (.file fault), [])
      | .ok text => Config.read text

end Newsstand
