import BenchRig.Pool.Machine

/-!
# The course of a run

How long the phases of a run take, and what happens in which order, is up to the machine it runs on.
A run is given its course, and is bound by it as far as it is possible: what a course names but
cannot happen does not, and what it leaves open happens in the order of submission.
-/

namespace BenchRig.Pool

/-- How long the phases of a run took, in milliseconds. -/
structure Timings where
  /-- The submission. -/
  submit : Float := 0
  /-- The wait for the results. -/
  wait : Float := 0
  /-- Everything from building the pool to releasing it. -/
  total : Float := 0

/-- The course of a run. -/
structure Course where
  /-- How long its phases take. -/
  timings : Timings := {}
  /-- What happens once a number of units have been submitted and before the next one is. -/
  early : Nat → List Event := fun _ => []
  /-- What happens after the last submission. -/
  late : List Event := []

instance : Inhabited Course := ⟨{}⟩

end BenchRig.Pool
