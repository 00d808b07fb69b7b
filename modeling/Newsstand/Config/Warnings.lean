import Newsstand.Config.Decoding
import Newsstand.Log
import Newsstand.Toml.Dates

/-!
# Warnings on a configuration

Entries that decoding passes over are most often misspelt, and so each gets a warning: the unknown
sections and the unknown keys of the known ones, in the order of their names.

A table whose first key is the one reserved for dates stands for a date here. The text under that
key has to be one; where it is not, there are no warnings at all.
-/

namespace Newsstand

open Toml (Key Value)

/-- The key by which a table stands for a date. -/
def dateKey : String := "$__toml_private_datetime"

/-- Whether a value is the text of a date. -/
def isDateText : Value → Bool
  | .string _ text => Toml.isDate text.toList
  | _ => false

mutual

/-- Whether every table in a value that stands for a date holds the text of one. -/
def datesHold : Value → Bool
  | .table _ [] => true
  | .table _ ((key, value) :: entries) =>
    if key.text == dateKey then isDateText value else datesHold value && entriesHold entries
  | .array _ items => itemsHold items
  | _ => true

/-- The same for the values of entries. -/
def entriesHold : List (Key × Value) → Bool
  | [] => true
  | (_, value) :: entries => datesHold value && entriesHold entries

/-- The same for the items of a list. -/
def itemsHold : List Value → Bool
  | [] => true
  | item :: items => datesHold item && itemsHold items

end

/-- The keys of a value that is a table and stands for no date. -/
def tableKeys : Value → List String
  | .table _ [] => []
  | .table _ ((key, _) :: entries) =>
    if key.text == dateKey then [] else key.text :: entries.map (·.1.text)
  | _ => []

/-- Texts in the order of their characters. -/
def inOrder (names : List String) : List String :=
  names.mergeSort fun a b => !decide (b < a)

/-- The sections with the names of their keys. -/
def Config.sections : List (String × List String) := [
  ("store", StoreConfig.fields.map (·.name)),
  ("fetch", FetchConfig.fields.map (·.name)),
  ("breaker", BreakerConfig.fields.map (·.name))]

/-- The warning about a section. -/
def unknownSection (key : String) : LogEvent :=
  ⟨.warn, "Unknown section in config file, ignoring", [("key", key)]⟩

/-- The warning about a key of a section. -/
def unknownKey (name key : String) : LogEvent :=
  ⟨.warn, "Unknown key in config file, ignoring", [("section", name), ("key", key)]⟩

/-- The warnings about the entry of a name. -/
def entryWarnings (entries : List (Key × Value)) (name : String) : Log :=
  match Config.sections.lookup name, Value.lookup? entries name with
  | none, _ => [unknownSection name]
  | some keys, some value =>
    ((inOrder (tableKeys value)).filter (!keys.contains ·)).map (unknownKey name)
  | some _, none => []

/-- The warnings about the entries of a text. -/
def Config.warnings (entries : List (Key × Value)) : Log :=
  if entriesHold entries then
    (inOrder (entries.map (·.1.text))).flatMap (entryWarnings entries)
  else []

end Newsstand
