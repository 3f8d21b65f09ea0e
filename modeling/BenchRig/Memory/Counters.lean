/-!
# Counting allocated bytes

Three counters follow what happens to blocks of memory: the bytes that are live, the greatest number
of them since the last reset, and the number of allocations. They are words of 64 bits.
-/

namespace BenchRig.Memory

/-- The counters at one instant. -/
structure Counters where
  /-- The bytes that are live. -/
  current : UInt64 := 0
  /-- The greatest number of live bytes since the last reset. -/
  peak : UInt64 := 0
  /-- The number of allocations. -/
  allocations : UInt64 := 0
  deriving DecidableEq, Repr

namespace Counters

/-- After a block has been allocated. -/
def allocate (c : Counters) (size : UInt64) : Counters where
  current := c.current + size
  peak := max c.peak (c.current + size)
  allocations := c.allocations + 1

/-- After a block has been released. -/
def release (c : Counters) (size : UInt64) : Counters := { c with current := c.current - size }

/-- After a block has been replaced by one of another size. -/
def resize (c : Counters) (old new : UInt64) : Counters := (c.release old).allocate new

/-- Starts the peak again from what is live. -/
def resetPeak (c : Counters) : Counters := { c with peak := c.current }

end Counters

/-! ## Samples -/

/-- The greatest peak seen in a series of samples. -/
structure Sampler where
  /-- The greatest peak. -/
  maxPeak : UInt64 := 0
  /-- The number of samples. -/
  samples : Nat := 0
  deriving DecidableEq, Repr

/-- Takes one more sample. -/
def Sampler.observe (s : Sampler) (c : Counters) : Sampler where
  maxPeak := max s.maxPeak c.peak
  samples := s.samples + 1

/-- Starts to sample: the peak starts again, so that what was before does not count. -/
def Sampler.start (c : Counters) : Counters × Sampler :=
  (c.resetPeak, ({} : Sampler).observe c.resetPeak)

end BenchRig.Memory
