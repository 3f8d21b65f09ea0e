/-!
# The exact value of a double

A finite double is a sign and a dyadic number `mantissa * 2 ^ exponent`. Everything printed from a
double is computed from this value in natural numbers, so no rounding happens on the way.
-/

namespace BenchRig.Decimal

/-- The number `mantissa * 2 ^ exponent`. -/
structure Dyadic where
  /-- The integer factor. -/
  mantissa : Nat
  /-- The power of two. -/
  exponent : Int
  deriving DecidableEq, Repr

/-- What a double stands for. -/
inductive Reading where
  | nan
  | infinite (negative : Bool)
  | finite (negative : Bool) (magnitude : Dyadic)
  deriving DecidableEq, Repr

/-- The leading bit of a normal double's mantissa, which is not among its bits. -/
def leadingBit : Nat := 4503599627370496

/-- Reads the bits of a double: the sign, eleven bits of exponent, 52 bits of fraction. -/
def Reading.ofBits (bits : UInt64) : Reading :=
  let n := bits.toNat
  let negative := n / (leadingBit * 2048) == 1
  let exponent := n / leadingBit % 2048
  let fraction := n % leadingBit
  if exponent = 2047 then
    if fraction = 0 then .infinite negative else .nan
  else if exponent = 0 then
    .finite negative ⟨fraction, -1074⟩
  else
    .finite negative ⟨leadingBit + fraction, Int.ofNat exponent - 1075⟩

/-- What the double `x` stands for. -/
def Reading.ofFloat (x : Float) : Reading := .ofBits x.toBits

/-- The dyadic number as a quotient of natural numbers. -/
def Dyadic.quotient (d : Dyadic) : Nat × Nat :=
  match d.exponent with
  | .ofNat e => (d.mantissa * Nat.pow 2 e, 1)
  | .negSucc e => (d.mantissa, Nat.pow 2 (e + 1))

end BenchRig.Decimal
