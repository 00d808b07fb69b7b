/-!
# Log events

What the library reports beside its results. An operation that reports returns the list of its
events, in the order in which they arise.
-/

namespace Newsstand

/-- How much an event matters. -/
inductive Level where
  | debug
  | info
  | warn
  deriving DecidableEq, Repr

/-- The name of a level. -/
def Level.name : Level → String
  | .debug => "DEBUG"
  | .info => "INFO"
  | .warn => "WARN"

/-- One report: a fixed message and the named values that belong to it. -/
structure LogEvent where
  level : Level
  message : String
  fields : List (String × String)
  deriving DecidableEq, Repr

/-- The events of an operation, in order. -/
abbrev Log := List LogEvent

end Newsstand
