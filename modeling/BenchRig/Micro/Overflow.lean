import BenchRig.Micro.Workload

/-!
# Sums that do not fit

A sum or a product of words may not fit into a word. A program that is built to be fast goes on with
what fits; one that is built with checks stops. Counting is spelled out for both, step by step.
-/

namespace BenchRig.Micro

/-- What becomes of a number that does not fit into a word. -/
inductive Overflow where
  /-- The program goes on with its lowest bits. -/
  | wrap
  /-- The program stops. -/
  | stop
  deriving DecidableEq, Repr

namespace Overflow

/-- The word for a number, if the program goes on with one. -/
def word (o : Overflow) (n : Nat) : Option UInt64 :=
  match o with
  | wrap => some (UInt64.ofNat n)
  | stop => if n < UInt64.size then some (UInt64.ofNat n) else none

/-- The sum of two words. -/
def add (o : Overflow) (a b : UInt64) : Option UInt64 := o.word (a.toNat + b.toNat)

/-- The product of two words. -/
def mul (o : Overflow) (a b : UInt64) : Option UInt64 := o.word (a.toNat * b.toNat)

/-- Adds the last digits of `rounds` numbers from `i` on to a sum. The number after the last one is
never looked at, so stepping on from `i` is not checked. -/
def addLastDigits (o : Overflow) : Nat → UInt64 → UInt64 → Option UInt64
  | 0, _, sum => some sum
  | rounds + 1, i, sum => do
    let sum ← o.add sum (i % 10)
    o.addLastDigits rounds (i + 1) sum

/-- The sum of the last digits of the numbers from one to `n`. -/
def countModTen (o : Overflow) (n : UInt64) : Option UInt64 := o.addLastDigits n.toNat 1 0

/-- The same sum in closed form. -/
def countModTenClosed (o : Overflow) (n : UInt64) : Option UInt64 := do
  let tens ← o.mul (n / 10) 45
  let next ← o.add (n % 10) 1
  let product ← o.mul (n % 10) next
  o.add tens (product / 2)

end Overflow

end BenchRig.Micro
