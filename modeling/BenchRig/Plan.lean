import BenchRig.Duration
import BenchRig.Failure
import BenchRig.Url.Parse

/-!
# Plans

How many workers a benchmark starts, and what each of them does. A plan is checked before anything
else happens, and the first violated condition is reported.
-/

namespace BenchRig

/-- The largest number of workers. -/
def maxWorkers : Nat := 10000

/-- The longest time a request may be given. -/
def maxRequestTimeout : Duration := .ofSeconds 300

/-- A plan for counting workers. -/
structure SpawnPlan where
  /-- The number of workers. -/
  workers : UInt32 := 1000
  /-- How far each worker counts. -/
  iterations : UInt64 := 1000000
  deriving DecidableEq

/-- A plan for fetching workers. -/
structure FetchPlan where
  /-- The number of workers. -/
  workers : UInt32 := 1000
  /-- The number of requests each worker makes, one after another. -/
  attempts : UInt32 := 5
  /-- Where every request goes. -/
  endpoint : String := "https://httpbin.org/delay/1"
  /-- How long a request may take. -/
  timeout : Duration := .ofSeconds 15
  deriving DecidableEq

/-- The plan with fewer fetching workers. -/
def FetchPlan.lite : FetchPlan := { workers := 100 }

/-- Why a plan is not accepted. -/
inductive PlanFault where
  | noWorkers
  | tooManyWorkers
  | noIterations
  | noAttempts
  | invalidEndpoint (endpoint : String) (fault : Url.Fault)
  | unsupportedScheme (endpoint : String)
  | noTimeout
  | timeoutTooLong
  deriving DecidableEq

namespace PlanFault

/-- What the fault says. -/
def message : PlanFault → String
  | noWorkers => "Worker count must be greater than 0"
  | tooManyWorkers => "Worker count cannot exceed " ++ Decimal.text maxWorkers
  | noIterations => "Worker iterations must be greater than 0"
  | noAttempts => "Requests per worker must be greater than 0"
  | invalidEndpoint endpoint fault =>
    "Invalid delay endpoint '" ++ endpoint ++ "': " ++ fault.message
  | unsupportedScheme endpoint => "Delay endpoint must use http or https: " ++ endpoint
  | noTimeout => "Request timeout must be greater than 0"
  | timeoutTooLong =>
    "Request timeout cannot exceed " ++ Decimal.text maxRequestTimeout.seconds ++ " seconds"

/-- The failure of a run with such a plan. -/
def failure (f : PlanFault) : Failure := ⟨.validation, f.message⟩

end PlanFault

/-- Checks a number of workers. -/
def checkWorkers (workers : UInt32) : Except PlanFault Unit :=
  if workers = 0 then .error .noWorkers
  else if maxWorkers < workers.toNat then .error .tooManyWorkers
  else .ok ()

/-- Checks an endpoint: a URL whose scheme is `http` or `https`. -/
def checkEndpoint (endpoint : String) : Except PlanFault Unit :=
  match Url.Address.ofText endpoint with
  | .error f => .error (.invalidEndpoint endpoint f)
  | .ok a =>
    if a.scheme = "http".toList ∨ a.scheme = "https".toList then .ok ()
    else .error (.unsupportedScheme endpoint)

/-- Checks the time given to a request. -/
def checkTimeout (timeout : Duration) : Except PlanFault Unit :=
  if timeout.nanos = 0 then .error .noTimeout
  else if maxRequestTimeout.nanos < timeout.nanos then .error .timeoutTooLong
  else .ok ()

/-- Checks a plan for counting workers. -/
def SpawnPlan.check (plan : SpawnPlan) : Except PlanFault Unit := do
  checkWorkers plan.workers
  if plan.iterations = 0 then throw .noIterations

/-- Checks a plan for fetching workers. -/
def FetchPlan.check (plan : FetchPlan) : Except PlanFault Unit := do
  checkWorkers plan.workers
  if plan.attempts = 0 then throw .noAttempts
  checkEndpoint plan.endpoint
  checkTimeout plan.timeout

/-- The failure of a plan for counting workers, if it is not accepted. -/
def SpawnPlan.validate (plan : SpawnPlan) : Except Failure Unit :=
  plan.check.mapError PlanFault.failure

/-- The failure of a plan for fetching workers, if it is not accepted. -/
def FetchPlan.validate (plan : FetchPlan) : Except Failure Unit :=
  plan.check.mapError PlanFault.failure

/-- The failure of a text that is not a URL. -/
def Url.Fault.failure (f : Url.Fault) : Failure :=
  ⟨.validation, "URL parse error: " ++ f.message⟩

end BenchRig
