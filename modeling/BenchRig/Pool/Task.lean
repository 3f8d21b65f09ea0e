import BenchRig.Log.Dispatch

/-!
# Tasks

What a unit of a pool does: it makes requests, of which it learns how they went, tells the log about
some of them, and in the end returns a result or panics. All units share one client, which answers
by the number of the request, whoever makes it.
-/

namespace BenchRig.Pool

/-- The status that a request was answered with, or why it was not answered. -/
abbrev Reply := Except Failure UInt16

/-- What a client does when it is called. -/
inductive Answer where
  /-- It answers. -/
  | reply (r : Reply)
  /-- It panics, and its caller with it. -/
  | panic (message : String)

/-- A client: what it does at each call, counted from zero. -/
abbrev Client := Nat → Answer

/-- What goes through a list again and again. -/
def cycling {α : Type} (first : α) (more : List α) : Nat → α := fun k =>
  ((first :: more)[k % (more.length + 1)]?).getD first

/-- No client: nothing is called. -/
def noClient : Client := fun _ => .panic ""

/-- What a unit does. -/
inductive Task where
  /-- It returns a result. -/
  | done (r : WorkerResult)
  /-- It panics. -/
  | panic (message : String)
  /-- It makes a request and goes on with how that went. -/
  | call (url : String) (next : Reply → Task)
  /-- It tells the log and goes on. -/
  | tell (e : Log.DispatchEvent) (next : Task)

/-- How a unit ended: with a result, or with the message of a panic. -/
abbrev Ending := Except String WorkerResult

/-! ## Fetching workers -/

/-- How a request went, by its reply: only the status 200 is a success. -/
def classify (attempt : UInt32) : Reply → Outcome
  | .ok status =>
    if status = 200 then .success attempt status
    else .failed attempt ("unexpected HTTP status " ++ Decimal.text status.toNat)
  | .error f => .failed attempt f.display

/-- What a fetching worker does from one of its requests on: `left` is the number of requests still
to be made, and `outcomes` holds those made before, the last one first. -/
def fetchFrom (id : UInt32) (url : String) :
    (left : Nat) → (attempt : UInt32) → (outcomes : List Outcome) → Task
  | 0, _, outcomes => .done ⟨id, .requests outcomes.reverse⟩
  | left + 1, attempt, outcomes =>
    .call url fun reply =>
      let outcome := classify attempt reply
      let rest := fetchFrom id url left (attempt + 1) (outcome :: outcomes)
      match outcome.error? with
      | some error => .tell (.attemptFailed id attempt error) rest
      | none => rest

/-- A fetching worker: one request after another, none of them repeated. -/
def fetchTask (url : String) (attempts : UInt32) (id : UInt32) : Task :=
  fetchFrom id url attempts.toNat 1 []

end BenchRig.Pool
