import BenchRig.App
import BenchRig.Proofs.Decimal.Spelling

/-!
# What is written about a pool

At the level of debugging, everything that the log is told of a pool is written. Here each kind of
entry is spelled out, with its level, its text and its fields, and so is the line that it becomes.
-/

namespace BenchRig.Pool

open Json (Value)
open Log (DispatchEvent Level Logger Timestamp)

/-- What is written about a pool, but for the time. -/
structure Note where
  /-- Who tells it. -/
  teller : Teller
  /-- Its level. -/
  level : Level
  /-- What it says. -/
  message : String
  /-- Keys and values, in the order in which they are set. -/
  fields : List (String × Value)

namespace Note

/-- A pool has been built. -/
def created (kind : PoolKind) (capacity : Nat) : Note :=
  let name := match kind with | .cpu => "cpu" | .io => "io"
  { teller := .dispatcher
    level := .debug
    message := "Created " ++ name ++ " pool with capacity " ++ toString capacity
    fields := [("pool_kind", .string name), ("capacity", .ofNat capacity)] }

/-- All units have been submitted. -/
def submitted (count : Nat) (ms : Float) : Note where
  teller := .dispatcher
  level := .info
  message := "Submitted " ++ toString count ++ " workers in " ++ Decimal.fixed 1 ms ++ "ms"
  fields := [("submitted", .ofNat count), ("submit_ms", .ofFloat ms)]

/-- The result of a worker has been collected. -/
def completed (id : UInt32) (count total : Nat) : Note where
  teller := .dispatcher
  level := .debug
  message := "Worker " ++ toString id.toNat ++ " completed (" ++ toString count ++ "/" ++
    toString total ++ ")"
  fields := [("worker_id", .ofNat id.toNat), ("completed", .ofNat count), ("total", .ofNat total)]

/-- A request of a worker has failed. Workers have the numbers from one on, and tell of their own
requests. -/
def failed (id attempt : UInt32) (error : String) : Note where
  teller := .worker (id.toNat - 1)
  level := .debug
  message := "Worker " ++ toString id.toNat ++ " attempt " ++ toString attempt.toNat ++
    " failed: " ++ error
  fields := [("worker_id", .ofNat id.toNat), ("attempt", .ofNat attempt.toNat),
    ("error", .string error)]

/-- All requests have been counted; that none of them succeeded is a warning. -/
def tallied (t : Tally) : Note where
  teller := .dispatcher
  level := if t.succeeded = 0 then .warn else .info
  message := "Requests: " ++ toString t.succeeded ++ " succeeded, " ++ toString t.failed ++
    " failed"
  fields := [("succeeded", .ofNat t.succeeded), ("failed", .ofNat t.failed),
    ("sample_errors", .array (t.sampleErrors.map .string))]

/-- Memory is to be watched, and nothing counts it. -/
def untracked : Note where
  teller := .dispatcher
  level := .warn
  message :=
    "Peak memory requested but the tracking allocator is not installed; it will read 0"
  fields := []

/-- The pool has been left. -/
def abandoned (pending : Nat) : Note where
  teller := .dispatcher
  level := .debug
  message := "Pool released without waiting for " ++ toString pending ++ " workers"
  fields := [("pending", .ofNat pending)]

/-- The line that a logger writes for a note, on the thread of who tells it. -/
def line (l : Logger) (session : Option String) (now : Timestamp) (worker : String) (n : Note) :
    String :=
  l.render {
    timestamp := now
    level := n.level
    message := n.message
    logger := l.name
    fields := Log.withSession session (.ofList n.fields)
    thread := some (match n.teller with | .dispatcher => "main" | .worker _ => worker)
    location := none }

/-- What is written about what the log was told. -/
def ofTold (t : Teller × DispatchEvent) : Note := ⟨t.1, t.2.level, t.2.message, t.2.fields⟩

@[simp] theorem teller_ofTold (t : Teller × DispatchEvent) : (ofTold t).teller = t.1 := rfl

theorem ofTold_created (kind : PoolKind) (capacity : Nat) :
    ofTold (.dispatcher, .poolCreated kind capacity) = created kind capacity := by
  simp only [created, ← Decimal.text_eq_toString]
  cases kind <;> rfl

theorem ofTold_submitted (count : Nat) (ms : Float) :
    ofTold (.dispatcher, .submitted count ms) = submitted count ms := by
  simp only [submitted, ← Decimal.text_eq_toString]
  rfl

theorem ofTold_completed (id : UInt32) (count total : Nat) :
    ofTold (.dispatcher, .workerCompleted id count total) = completed id count total := by
  simp only [completed, ← Decimal.text_eq_toString]
  rfl

theorem ofTold_failed {i : Nat} {id : UInt32} (hid : id.toNat = i + 1) (attempt : UInt32)
    (error : String) :
    ofTold (.worker i, .attemptFailed id attempt error) = failed id attempt error := by
  have hplace : id.toNat - 1 = i := by omega
  simp only [failed, hplace, ← Decimal.text_eq_toString]
  rfl

/-- Where anything was requested, the level of the tally depends on the successes only. -/
theorem ofTold_tallied {t : Tally} (ht : 0 < t.total) :
    ofTold (.dispatcher, .tally t) = tallied t := by
  have hlevel : (DispatchEvent.tally t).level = if t.succeeded = 0 then .warn else .info := by
    simp only [DispatchEvent.level, ht, true_and]
  simp only [tallied, ← hlevel, ← Decimal.text_eq_toString]
  rfl

theorem ofTold_untracked : ofTold (.dispatcher, .memoryUntracked) = untracked := rfl

theorem ofTold_abandoned (pending : Nat) :
    ofTold (.dispatcher, .abandoned pending) = abandoned pending := by
  simp only [abandoned, ← Decimal.text_eq_toString]
  rfl

end Note

/-- The lines that loggers at the level of debugging write for what they were told are those of
notes. -/
def Written (told : List (Teller × DispatchEvent)) (notes : List Note) : Prop :=
  ∀ (l : Logger) (session : Option String) (now : Timestamp) (worker : String),
    l.threshold = .debug →
      renderTold l session now worker told = notes.map (Note.line l session now worker)

/-- At the level of debugging, every event of a pool is written in a line of its own. -/
theorem written_ofTold (told : List (Teller × DispatchEvent)) :
    Written told (told.map Note.ofTold) := by
  intro l session now worker hdebug
  have hpasses : ∀ e : DispatchEvent, l.wouldLog e.level = true := fun e => by
    unfold Logger.wouldLog
    rw [hdebug]
    cases e with
    | tally t =>
      simp only [DispatchEvent.level]
      split <;> rfl
    | _ => rfl
  have hlines : ∀ t : Teller × DispatchEvent,
      l.log session ⟨now, some (match t.1 with | .dispatcher => "main" | .worker _ => worker)⟩
        t.2.event = [(Note.ofTold t).line l session now worker] := fun t => if_pos (hpasses t.2)
  rw [List.map_map, List.map_eq_flatMap]
  exact congrArg told.flatMap (funext hlines)

end BenchRig.Pool
