import BenchRig.Decimal.Double
import BenchRig.Decimal.Numeral

/-!
# Decimals with a fixed number of places

A double is written with `places` digits after the point: the multiple of `10 ^ -places` that is
nearest to its exact value, a tie going to the even last digit. There is never an exponent. A value
that rounds to zero keeps its sign, and what is not a number or not finite is written as a word.
-/

namespace BenchRig.Decimal

/-- The natural number nearest to `num / den`; a tie goes to the even neighbour. -/
def roundHalfEven (num den : Nat) : Nat :=
  let q := num / den
  let twice := 2 * (num % den)
  if twice < den then q
  else if den < twice then q + 1
  else if q % 2 = 0 then q else q + 1

/-- How many units of `10 ^ -places` the dyadic number is, rounded. -/
def Dyadic.units (d : Dyadic) (places : Nat) : Nat :=
  let (num, den) := d.quotient
  roundHalfEven (num * Nat.pow 10 places) den

/-- Writes `units * 10 ^ -places`; `places` is not zero. -/
def fixedNumeral (places units : Nat) : List Char :=
  numeral (units / Nat.pow 10 places) ++ '.' :: paddedNumeral places (units % Nat.pow 10 places)

/-- The decimal with `places` digits after the point of what a double stands for. -/
def Reading.fixed (places : Nat) : Reading → List Char
  | .nan => ['N', 'a', 'N']
  | .infinite negative => (if negative then ['-'] else []) ++ ['i', 'n', 'f']
  | .finite negative d =>
    (if negative then ['-'] else []) ++ fixedNumeral places (d.units places)

/-- The decimal with `places` digits after the point of a double. -/
def fixed (places : Nat) (x : Float) : String :=
  String.ofList ((Reading.ofFloat x).fixed places)

end BenchRig.Decimal
