/-!
# Results of workers

A worker answers with its id and what it produced: a sum, or the outcomes of its requests in the
order in which they were made. A failed request is an outcome like any other.
-/

namespace BenchRig

/-- How a request went. -/
inductive Outcome where
  /-- It was answered as it should be. -/
  | success (attempt : UInt32) (status : UInt16)
  /-- It was not answered, or otherwise than it should be. -/
  | failed (attempt : UInt32) (error : String)
  deriving DecidableEq, Repr

namespace Outcome

/-- The number of the request among those of its worker, from one on. -/
def attempt : Outcome → UInt32
  | success a _ => a
  | failed a _ => a

/-- Whether the request succeeded. -/
def isSuccess : Outcome → Bool
  | success _ _ => true
  | failed _ _ => false

/-- What went wrong, if anything did. -/
def error? : Outcome → Option String
  | success _ _ => none
  | failed _ e => some e

end Outcome

/-- What a worker produced. -/
inductive Payload where
  /-- The sum of a counting worker. -/
  | sum (value : UInt64)
  /-- The outcomes of a fetching worker. -/
  | requests (outcomes : List Outcome)
  deriving DecidableEq, Repr

/-- The answer of one worker. -/
structure WorkerResult where
  /-- The worker's id; the first one is one. -/
  id : UInt32
  /-- What it produced. -/
  payload : Payload
  deriving DecidableEq, Repr

namespace WorkerResult

/-- The outcomes of the worker's requests. -/
def outcomes (r : WorkerResult) : List Outcome :=
  match r.payload with
  | .sum _ => []
  | .requests os => os

/-- The number of requests. -/
def requestCount (r : WorkerResult) : Nat := r.outcomes.length

/-- The number of failed requests. -/
def failedCount (r : WorkerResult) : Nat := (r.outcomes.filter fun o => !o.isSuccess).length

/-- The sum, if the worker counted. -/
def sum? (r : WorkerResult) : Option UInt64 :=
  match r.payload with
  | .sum n => some n
  | .requests _ => none

end WorkerResult

end BenchRig
