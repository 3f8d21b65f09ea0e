import BenchRig.Ansi.Basic

/-!
# Speed

Measurements are coloured by how long they took.
-/

namespace BenchRig.Report

open Ansi (Colour)

/-- How long something took, roughly. -/
inductive Speed where
  /-- Below ten milliseconds. -/
  | fast
  /-- Below a hundred. -/
  | moderate
  /-- Below a second. -/
  | slow
  /-- Longer, or not a number. -/
  | verySlow
  deriving DecidableEq, Repr

namespace Speed

/-- The class of a number of milliseconds. -/
def ofMillis (ms : Float) : Speed :=
  if ms < 10 then fast
  else if ms < 100 then moderate
  else if ms < 1000 then slow
  else verySlow

/-- The colour of the class. -/
def colour : Speed → Colour
  | fast => .green
  | moderate => .cyan
  | slow => .yellow
  | verySlow => .red

end Speed

end BenchRig.Report
