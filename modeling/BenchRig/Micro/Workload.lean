import BenchRig.Result.Basic

/-!
# Workloads

Small computations with a known answer. Each does countable work, so the loops are spelled out.
-/

namespace BenchRig.Micro

/-- Adds the last digits of `rounds` numbers from `i` on to a sum. -/
def addLastDigits : Nat → UInt64 → UInt64 → UInt64
  | 0, _, sum => sum
  | rounds + 1, i, sum => addLastDigits rounds (i + 1) (sum + i % 10)

/-- The sum of the last digits of the numbers from one to `n`. -/
def countModTen (n : UInt64) : UInt64 := addLastDigits n.toNat 1 0

/-- The same sum: 45 for each full ten, and a triangle number for the rest. -/
def countModTenClosed (n : UInt64) : UInt64 :=
  n / 10 * 45 + (n % 10) * (n % 10 + 1) / 2

/-- A counting worker. -/
def countingWorker (iterations : UInt64) (id : UInt32) : WorkerResult :=
  ⟨id, .sum (countModTen iterations)⟩

/-- As many additions as `size` tells. -/
def arithmetic (size : Nat) : UInt64 := countModTen (UInt64.ofNat size)

/-- Grows an array by one element at a time. -/
def grow : Nat → Array UInt64 → Array UInt64
  | 0, values => values
  | rounds + 1, values => grow rounds (values.push (UInt64.ofNat rounds))

/-- The size of an array after it has grown to it. -/
def arrayPush (size : Nat) : UInt64 := UInt64.ofNat (grow size #[]).size

/-- Adds the products of a number with the first `j` numbers to a sum. -/
def addProducts (i : UInt64) : Nat → UInt64 → UInt64
  | 0, sum => sum
  | j + 1, sum => addProducts i j (sum + i * UInt64.ofNat (j + 1))

/-- Adds all products of one of the first `i` numbers with one of the first `size`. -/
def addTable (size : Nat) : Nat → UInt64 → UInt64
  | 0, sum => sum
  | i + 1, sum => addTable size i (addProducts (UInt64.ofNat (i + 1)) size sum)

/-- The sum of a multiplication table of `size` rows and columns. -/
def nestedLoops (size : Nat) : UInt64 := addTable size size 0

/-- Appends a letter again and again. -/
def appendLetters : Nat → String → String
  | 0, text => text
  | rounds + 1, text => appendLetters rounds (text ++ "x")

/-- The length of a text after `size` letters. -/
def stringConcat (size : Nat) : UInt64 := UInt64.ofNat (appendLetters size "").length

/-- Fibonacci numbers, by their definition. -/
def fib : Nat → UInt64
  | 0 => 0
  | 1 => 1
  | n + 2 => fib (n + 1) + fib n

/-- How many even numbers are left of the first `size` after doubling them. -/
def functionalChain (size : Nat) : UInt64 :=
  UInt64.ofNat (((List.range' 1 size).filter (· % 2 == 0)).map (2 * ·)).length

end BenchRig.Micro
