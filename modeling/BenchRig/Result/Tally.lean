import BenchRig.Result.Basic

/-!
# Tallies

How many requests of a run succeeded and failed, with a few of the errors.
-/

namespace BenchRig

/-- The numbers of requests, and some errors. -/
structure Tally where
  /-- The number of requests that succeeded. -/
  succeeded : Nat := 0
  /-- The number of requests that failed. -/
  failed : Nat := 0
  /-- The first few distinct errors, in the order in which they were met. -/
  sampleErrors : List String := []
  deriving DecidableEq, Repr

namespace Tally

/-- How many errors are kept. -/
def maxSampleErrors : Nat := 3

/-- Counts one more outcome. -/
def add (t : Tally) (o : Outcome) : Tally :=
  match o.error? with
  | none => { t with succeeded := t.succeeded + 1 }
  | some e =>
    { t with
      failed := t.failed + 1
      sampleErrors :=
        if t.sampleErrors.length < maxSampleErrors ∧ e ∉ t.sampleErrors then t.sampleErrors ++ [e]
        else t.sampleErrors }

/-- The tally of a run. -/
def ofResults (results : List WorkerResult) : Tally :=
  results.foldl (fun t r => r.outcomes.foldl add t) {}

/-- The number of all requests. -/
def total (t : Tally) : Nat := t.succeeded + t.failed

end Tally

end BenchRig
