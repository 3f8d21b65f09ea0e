/-!
# Durations

A span of time in whole nanoseconds, with whole seconds that fit into 64 bits.
-/

namespace BenchRig

/-- How many nanoseconds a second has. -/
def nanosPerSecond : Nat := 1000000000

/-- A span of time. -/
structure Duration where
  /-- Its length in nanoseconds. -/
  nanos : Nat
  /-- The whole seconds fit into 64 bits. -/
  bounded : nanos < UInt64.size * nanosPerSecond
  deriving DecidableEq

namespace Duration

/-- The given number of seconds and nanoseconds, unless that is too much. -/
def ofParts? (seconds nanoseconds : Nat) : Option Duration :=
  if h : seconds * nanosPerSecond + nanoseconds < UInt64.size * nanosPerSecond then
    some ⟨seconds * nanosPerSecond + nanoseconds, h⟩
  else none

/-- A number of seconds. -/
def ofSeconds (n : UInt32) : Duration :=
  ⟨n.toNat * nanosPerSecond, by
    have := n.toNat_lt
    simp only [nanosPerSecond, UInt64.size]
    omega⟩

/-- No time at all. -/
def zero : Duration := ⟨0, by decide⟩

instance : Inhabited Duration := ⟨zero⟩

/-- The whole seconds. -/
def seconds (d : Duration) : Nat := d.nanos / nanosPerSecond

/-- The nanoseconds beyond the whole seconds. -/
def subsecond (d : Duration) : Nat := d.nanos % nanosPerSecond

/-- The duration in milliseconds: seconds and their fraction are rounded to doubles, added, and
multiplied. -/
def milliseconds (d : Duration) : Float :=
  ((UInt64.ofNat d.seconds).toFloat + (UInt64.ofNat d.subsecond).toFloat / 1000000000) * 1000

end Duration

end BenchRig
