/-!
# Decimal numerals

The digits of a natural number, and the number that a string of digits denotes.
-/

namespace BenchRig.Decimal

/-- The character of a digit; `d` is below ten. -/
def digit (d : Nat) : Char := Char.ofNat ('0'.toNat + d)

/-- The digits of `n` in front of `tail`, without superfluous zeros. -/
def numeralOnto (n : Nat) (tail : List Char) : List Char :=
  if n < 10 then digit n :: tail else numeralOnto (n / 10) (digit (n % 10) :: tail)
termination_by n
decreasing_by omega

/-- The decimal numeral of `n`. -/
def numeral (n : Nat) : List Char := numeralOnto n []

/-- The decimal numeral of `n`, filled up with zeros on the left to at least `width` digits. -/
def paddedNumeral (width n : Nat) : List Char :=
  let ds := numeral n
  List.replicate (width - ds.length) '0' ++ ds

/-- The decimal numeral of an integer, with a minus sign in front of a negative one. -/
def integerNumeral : Int → List Char
  | .ofNat n => numeral n
  | .negSucc n => '-' :: numeral (n + 1)

/-- The value of a decimal digit. -/
def digitValue? (c : Char) : Option Nat :=
  if '0' ≤ c ∧ c ≤ '9' then some (c.toNat - '0'.toNat) else none

/-- The number that a string of decimal digits denotes; other characters count as zero. -/
def denoted (ds : List Char) : Nat :=
  ds.foldl (fun n c => 10 * n + (digitValue? c).getD 0) 0

/-- The decimal numeral as text. -/
def text (n : Nat) : String := String.ofList (numeral n)

end BenchRig.Decimal
