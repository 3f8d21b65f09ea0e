import BenchRig.Kind
import BenchRig.Plan
import BenchRig.Settings

/-!
# Summary of the settings

What a run is about to do, one line for each setting.
-/

namespace BenchRig

/-- A truth value as a word. -/
def truthText (b : Bool) : String := if b then "true" else "false"

/-- The lines about a plan for counting workers. -/
def SpawnPlan.summary (plan : SpawnPlan) : List String :=
  ["Workers: " ++ Decimal.text plan.workers.toNat,
   "Iterations per worker: " ++ Decimal.text plan.iterations.toNat]

/-- The lines about a plan for fetching workers. -/
def FetchPlan.summary (plan : FetchPlan) : List String :=
  ["Workers: " ++ Decimal.text plan.workers.toNat,
   "Requests per worker: " ++ Decimal.text plan.attempts.toNat,
   "Endpoint: " ++ plan.endpoint,
   "Request timeout: " ++ Decimal.text plan.timeout.seconds ++ "s"]

/-- The lines about the plan that a benchmark follows by default. -/
def Kind.planSummary : Kind → List String
  | .micro => []
  | .spawn | .spawnOnly => SpawnPlan.summary {}
  | .fetch => FetchPlan.summary {}
  | .fetchLite | .fetchLiteMemory => FetchPlan.summary .lite

/-- The lines about a run. -/
def summaryLines (settings : Settings) (kind : Kind) : List String :=
  ["Benchmark: " ++ kind.program,
   "Color Output: " ++ truthText settings.colour,
   "Verbose: " ++ truthText settings.verbose,
   "Debug: " ++ truthText settings.debug] ++ kind.planSummary

/-- The summary of a run. -/
def summary (settings : Settings) (kind : Kind) : String :=
  "\n".intercalate (summaryLines settings kind)

end BenchRig
