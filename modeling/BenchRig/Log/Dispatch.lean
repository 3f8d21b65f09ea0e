import BenchRig.Decimal.Fixed
import BenchRig.Kind
import BenchRig.Log.Logger
import BenchRig.Result.Tally

/-!
# What dispatching logs

The events in the life of a pool and its workers.
-/

namespace BenchRig.Log

open Decimal (text)
open Json (Value)

/-- An event in the life of a pool. -/
inductive DispatchEvent where
  | poolCreated (kind : PoolKind) (capacity : Nat)
  | submitted (count : Nat) (ms : Float)
  | workerCompleted (id : UInt32) (completed total : Nat)
  | attemptFailed (id attempt : UInt32) (error : String)
  | tally (t : Tally)
  | memoryUntracked
  | abandoned (pending : Nat)

namespace DispatchEvent

/-- The level of an event. A run in which no request succeeded deserves a warning. -/
def level : DispatchEvent → Level
  | poolCreated _ _ | workerCompleted _ _ _ | attemptFailed _ _ _ | abandoned _ => .debug
  | submitted _ _ => .info
  | tally t => if 0 < t.total ∧ t.succeeded = 0 then .warn else .info
  | memoryUntracked => .warn

/-- What the log says about an event. -/
def message : DispatchEvent → String
  | poolCreated kind capacity =>
    "Created " ++ kind.label ++ " pool with capacity " ++ text capacity
  | submitted count ms =>
    "Submitted " ++ text count ++ " workers in " ++ Decimal.fixed 1 ms ++ "ms"
  | workerCompleted id completed total =>
    "Worker " ++ text id.toNat ++ " completed (" ++ text completed ++ "/" ++ text total ++ ")"
  | attemptFailed id attempt error =>
    "Worker " ++ text id.toNat ++ " attempt " ++ text attempt.toNat ++ " failed: " ++ error
  | tally t => "Requests: " ++ text t.succeeded ++ " succeeded, " ++ text t.failed ++ " failed"
  | memoryUntracked =>
    "Peak memory requested but the tracking allocator is not installed; it will read 0"
  | abandoned pending =>
    "Pool released without waiting for " ++ text pending ++ " workers"

/-- The values that belong to an event. -/
def fields : DispatchEvent → List (String × Value)
  | poolCreated kind capacity =>
    [("pool_kind", .string kind.label), ("capacity", .ofNat capacity)]
  | submitted count ms => [("submitted", .ofNat count), ("submit_ms", .ofFloat ms)]
  | workerCompleted id completed total =>
    [("worker_id", .ofNat id.toNat), ("completed", .ofNat completed), ("total", .ofNat total)]
  | attemptFailed id attempt error =>
    [("worker_id", .ofNat id.toNat), ("attempt", .ofNat attempt.toNat), ("error", .string error)]
  | tally t =>
    [("succeeded", .ofNat t.succeeded), ("failed", .ofNat t.failed),
     ("sample_errors", .ofStrings t.sampleErrors)]
  | memoryUntracked => []
  | abandoned pending => [("pending", .ofNat pending)]

/-- The event as it is logged. -/
def event (e : DispatchEvent) : Event where
  level := e.level
  message := e.message
  fields := e.fields

end DispatchEvent

/-- The name of the logger that dispatching uses. -/
def dispatchName : String := "DISPATCH"

end BenchRig.Log
