/-!
# Durations

A span of time in milliseconds and the text that names it: seconds from one second on, with up to
three decimal places and none that is an idle zero, milliseconds below.
-/

namespace Newsstand

/-- A span of time. -/
structure Duration where
  milliseconds : Nat
  deriving DecidableEq, Repr

namespace Duration

/-- The decimal places of a number of thousandths below one thousand, without the zeros at the
end. -/
def fraction (thousandths : Nat) : String :=
  if thousandths = 0 then ""
  else if thousandths % 100 = 0 then s!".{thousandths / 100}"
  else if thousandths % 10 = 0 then
    s!".{thousandths / 100}{thousandths / 10 % 10}"
  else s!".{thousandths / 100}{thousandths / 10 % 10}{thousandths % 10}"

/-- The text of a span; the empty one is told in nanoseconds. -/
def text (d : Duration) : String :=
  if d.milliseconds = 0 then "0ns"
  else if d.milliseconds < 1000 then s!"{d.milliseconds}ms"
  else s!"{d.milliseconds / 1000}{fraction (d.milliseconds % 1000)}s"

end Duration

end Newsstand
