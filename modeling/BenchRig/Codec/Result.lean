import BenchRig.Json.Decoder
import BenchRig.Result.Tally

/-!
# Results of workers as JSON

Alternatives are objects with one member that names the alternative.
-/

namespace BenchRig

open Json

/-! ## Writing -/

/-- An outcome as a JSON value. -/
def Outcome.toJson : Outcome → Value
  | .success attempt status =>
    .object [("Success",
      .object [("attempt", .ofNat attempt.toNat), ("status", .ofNat status.toNat)])]
  | .failed attempt error =>
    .object [("Failed", .object [("attempt", .ofNat attempt.toNat), ("error", .string error)])]

/-- What a worker produced, as a JSON value. -/
def Payload.toJson : Payload → Value
  | .sum n => .object [("Sum", .ofNat n.toNat)]
  | .requests os =>
    .object [("Requests", .object [("attempts", .array (os.map Outcome.toJson))])]

/-- The answer of a worker as a JSON value. -/
def WorkerResult.toJson (r : WorkerResult) : Value :=
  .object [("worker_id", .ofNat r.id.toNat), ("payload", r.payload.toJson)]

/-- A tally as a JSON value. -/
def Tally.toJson (t : Tally) : Value :=
  .object [("succeeded", .ofNat t.succeeded), ("failed", .ofNat t.failed),
    ("sample_errors", .ofStrings t.sampleErrors)]

/-! ## Reading -/

/-- The shape of a successful outcome. -/
def Outcome.successShape : Shape :=
  .of "struct variant AttemptOutcome::Success" [.of "attempt" uint32, .of "status" uint16]

/-- The shape of a failed outcome. -/
def Outcome.failedShape : Shape :=
  .of "struct variant AttemptOutcome::Failed" [.of "attempt" uint32, .of "error" text]

/-- Decodes an outcome. -/
def Outcome.decode : Decoder Outcome :=
  alternative ["Success", "Failed"] fun name content depth =>
    if name = "Success" then do
      let r ← fielded successShape content depth
      return .success (← r.get "attempt" uint32) (← r.get "status" uint16)
    else do
      let r ← fielded failedShape content depth
      return .failed (← r.get "attempt" uint32) (← r.get "error" text)

/-- The shape of a fetching worker's outcomes. -/
def Payload.requestsShape : Shape :=
  .of "struct variant WorkerPayload::Requests" [.of "attempts" (list Outcome.decode)]

/-- Decodes what a worker produced. -/
def Payload.decode : Decoder Payload :=
  alternative ["Sum", "Requests"] fun name content depth =>
    if name = "Sum" then return .sum (← single uint64 content depth)
    else do
      let r ← fielded requestsShape content depth
      return .requests (← r.get "attempts" (list Outcome.decode))

/-- The shape of a worker's answer. -/
def WorkerResult.shape : Shape :=
  .of "struct WorkerResult" [.of "worker_id" uint32, .of "payload" Payload.decode]

/-- Decodes the answer of a worker. -/
def WorkerResult.decode : Decoder WorkerResult := fun depth d => do
  let r ← shape.decode depth d
  return ⟨← r.get "worker_id" uint32, ← r.get "payload" Payload.decode⟩

/-- The shape of a tally. -/
def Tally.shape : Shape :=
  .of "struct RequestTally"
    [.of "succeeded" Json.count, .of "failed" Json.count, .of "sample_errors" (list text)]

/-- Decodes a tally. -/
def Tally.decode : Decoder Tally := fun depth d => do
  let r ← shape.decode depth d
  return ⟨← r.get "succeeded" Json.count, ← r.get "failed" Json.count,
    ← r.get "sample_errors" (list text)⟩

end BenchRig
