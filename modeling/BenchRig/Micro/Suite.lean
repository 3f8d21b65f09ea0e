import BenchRig.Micro.Workload
import BenchRig.Report.Writer

/-!
# Suites

A suite runs workloads in order, each of them once. The time of each is written as soon as it is
known, and the first wrong value ends the suite.
-/

namespace BenchRig.Micro

open Report (Writer)

/-- A workload with the value it must produce. -/
structure Workload where
  /-- What the report calls it. -/
  label : String
  /-- How much work it is. -/
  size : Nat
  /-- Does work of a given size. -/
  run : Nat → UInt64
  /-- The value it must produce. -/
  expected : UInt64

/-- The value that a workload produces. -/
def Workload.value (w : Workload) : UInt64 := w.run w.size

/-- The suite that is run by default. -/
def suite : List Workload := [
  ⟨"Arithmetic (1M ops)", 1000000, arithmetic, 4500000⟩,
  ⟨"Array push (100k)", 100000, arrayPush, 100000⟩,
  ⟨"Nested loops (100x100)", 100, nestedLoops, 25502500⟩,
  ⟨"String concat (10k)", 10000, stringConcat, 10000⟩,
  ⟨"Recursion fib(25)", 25, fib, 75025⟩,
  ⟨"Functional chain", 10000, functionalChain, 5000⟩]

/-- The failure of a workload that produced another value. -/
def mismatch (w : Workload) (value : UInt64) : Failure :=
  ⟨.internal, w.label ++ " produced " ++ Decimal.text value.toNat ++ " instead of "
    ++ Decimal.text w.expected.toNat⟩

/-- What is left when a suite has ended. -/
structure SuiteRun where
  /-- The writer. -/
  writer : Writer
  /-- The labels of the workloads that were run. -/
  ran : List String
  /-- The measurements, or why the suite ended early. -/
  outcome : Except Failure (List Measurement)

/-- Runs workloads in order; `clock` tells how many milliseconds each of them took. -/
def runSuite (clock : Nat → Float) (writer : Writer) : List Workload → SuiteRun
  | [] => ⟨writer, [], .ok []⟩
  | w :: ws =>
    let value := w.value
    let measurement : Measurement := ⟨w.label, clock 0⟩
    match writer.write (.measurement measurement) with
    | (writer, .error f) => ⟨writer, [w.label], .error f⟩
    | (writer, .ok ()) =>
      if value ≠ w.expected then ⟨writer, [w.label], .error (mismatch w value)⟩
      else
        let rest := runSuite (fun n => clock (n + 1)) writer ws
        ⟨rest.writer, w.label :: rest.ran, rest.outcome.map (measurement :: ·)⟩

/-- What is left when a single step has been timed. -/
structure Timed (α : Type) where
  /-- The writer. -/
  writer : Writer
  /-- The value of the step, or why its time could not be written. -/
  outcome : Except Failure α

/-- Times one step and writes how long it took. -/
def benchmark {α : Type} (elapsed : Float) (writer : Writer) (label : String)
    (unit : Unit → α) : Timed α :=
  let value := unit ()
  match writer.write (.measurement ⟨label, elapsed⟩) with
  | (writer, .error f) => ⟨writer, .error f⟩
  | (writer, .ok ()) => ⟨writer, .ok value⟩

end BenchRig.Micro
