import BenchRig.Duration

/-!
# Measurements

A label together with the time that something took.
-/

namespace BenchRig

/-- A timed step. -/
structure Measurement where
  /-- What was timed. -/
  name : String
  /-- How long it took, in milliseconds. -/
  elapsed : Float

namespace Measurement

/-- The measurement of a duration. -/
def ofDuration (name : String) (d : Duration) : Measurement := ⟨name, d.milliseconds⟩

/-- The measurement of a raw number of milliseconds: what is negative or not finite counts as zero.
A zero with a sign equals the zero that it is compared with, and the greater of the two may be
either of them; here it is the one without a sign. -/
def ofMillis (name : String) (ms : Float) : Measurement :=
  ⟨name, if ms.isFinite then (if 0 < ms then ms else 0) else 0⟩

end Measurement

end BenchRig
