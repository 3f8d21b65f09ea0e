import BenchRig.Decimal.Numeral
import BenchRig.Failure
import BenchRig.Result.Basic

/-!
# Accounting

Every worker that was submitted must answer exactly once, under its own id, and with what it was
asked for. The first violation is reported.
-/

namespace BenchRig

open Decimal (text)

/-- What does not add up in a run. -/
inductive AccountingFault where
  | unsubmitted (submitted workers : Nat)
  | wrongCount (collected submitted : Nat)
  | repeated (id : UInt32)
  | outside (id : UInt32) (submitted : Nat)
  | wrongSum (id : UInt32) (sum expected : UInt64)
  | noSum (id : UInt32)
  | wrongAttempts (id : UInt32) (recorded : Nat) (expected : UInt32)
  deriving DecidableEq, Repr

namespace AccountingFault

/-- What the fault says. -/
def message : AccountingFault → String
  | unsubmitted submitted workers =>
    "Submitted " ++ text submitted ++ " of " ++ text workers ++ " workers"
  | wrongCount collected submitted =>
    "Collected " ++ text collected ++ " results for " ++ text submitted ++ " submitted workers"
  | repeated id => "Worker " ++ text id.toNat ++ " reported more than once"
  | outside id submitted =>
    "Worker id " ++ text id.toNat ++ " is outside 1..=" ++ text submitted
  | wrongSum id sum expected =>
    "Worker " ++ text id.toNat ++ " computed " ++ text sum.toNat ++ " instead of "
      ++ text expected.toNat
  | noSum id => "Worker " ++ text id.toNat ++ " returned no sum"
  | wrongAttempts id recorded expected =>
    "Worker " ++ text id.toNat ++ " recorded " ++ text recorded ++ " attempts instead of "
      ++ text expected.toNat

/-- The failure of a run that does not add up. -/
def failure (f : AccountingFault) : Failure := ⟨.accounting, f.message⟩

end AccountingFault

/-- The slot of an id, counted from zero. Ids begin at one and are taken as words of 64 bits, so zero
has the last slot that a word can name. -/
def slotOf (id : UInt32) : Nat := (id.toUInt64 - 1).toNat

/-- Checks ids one after another; `seen` has a slot for each worker, which is set once its id has
been met. -/
def checkIds (submitted : Nat) (seen : Array Bool) : List UInt32 → Except AccountingFault Unit
  | [] => .ok ()
  | id :: ids =>
    match seen[slotOf id]? with
    | some false => checkIds submitted (seen.setIfInBounds (slotOf id) true) ids
    | some true => .error (.repeated id)
    | none => .error (.outside id submitted)

/-- Checks that each of the ids `1` to `submitted` occurs exactly once. -/
def checkAccounting (submitted : Nat) (results : List WorkerResult) :
    Except AccountingFault Unit :=
  if results.length ≠ submitted then .error (.wrongCount results.length submitted)
  else checkIds submitted (Array.replicate submitted false) (results.map (·.id))

/-- Checks that each worker computed `expected`. -/
def checkSums (expected : UInt64) : List WorkerResult → Except AccountingFault Unit
  | [] => .ok ()
  | r :: rs =>
    match r.sum? with
    | some sum =>
      if sum = expected then checkSums expected rs else .error (.wrongSum r.id sum expected)
    | none => .error (.noSum r.id)

/-- Checks that each worker recorded as many outcomes as requests were planned. -/
def checkAttempts (attempts : UInt32) (results : List WorkerResult) :
    Except AccountingFault Unit :=
  match results.find? fun r => r.requestCount ≠ attempts.toNat with
  | some r => .error (.wrongAttempts r.id r.requestCount attempts)
  | none => .ok ()

end BenchRig
