import BenchRig.Decimal.Double
import BenchRig.Decimal.Numeral

/-!
# Shortest decimals

The shortest decimal of a double is the one with the fewest significant digits that lies in the
interval of numbers rounding to the double; among several of that length, the nearest to the exact
value, and the even one of two equally near.
-/

namespace BenchRig.Decimal

/-- A decimal `significand * 10 ^ exponent`, its significand written with `count` digits. -/
structure Scientific where
  /-- The significant digits as a number. -/
  significand : Nat
  /-- The power of ten of the last digit. -/
  exponent : Int
  deriving DecidableEq, Repr

/-- The numbers that round to a double, in quarters of a unit of its last place: its value, and the
bounds below and above, which belong to the interval when the mantissa is even. -/
structure Interval where
  /-- The lower bound. -/
  lower : Nat
  /-- The value of the double. -/
  middle : Nat
  /-- The upper bound. -/
  upper : Nat
  /-- The power of two of a quarter of a unit. -/
  exponent : Int
  /-- Whether the bounds round to the double. -/
  closed : Bool

/-- The interval around a double's magnitude. At a power of two the neighbour below is nearer. -/
def Dyadic.interval (d : Dyadic) : Interval where
  lower := 4 * d.mantissa - (if d.mantissa = leadingBit ∧ -1074 < d.exponent then 1 else 2)
  middle := 4 * d.mantissa
  upper := 4 * d.mantissa + 2
  exponent := d.exponent - 2
  closed := d.mantissa % 2 == 0

/-- The power of two with the given exponent, one if that is negative. -/
def twoTo (e : Int) : Nat := Nat.pow 2 e.toNat

/-- The power of ten with the given exponent, one if that is negative. -/
def tenTo (k : Int) : Nat := Nat.pow 10 k.toNat

/-- Compares `a * 2 ^ e` with `b * 10 ^ k` by natural numbers. -/
def compareScaled (a : Nat) (e : Int) (b : Nat) (k : Int) : Ordering :=
  compare (a * twoTo e * tenTo (-k)) (b * tenTo k * twoTo (-e))

/-- Whether `s` rounds to the double. -/
def Interval.holds (i : Interval) (s : Scientific) : Bool :=
  let below := compareScaled i.lower i.exponent s.significand s.exponent
  let above := compareScaled i.upper i.exponent s.significand s.exponent
  if i.closed then below != .gt && above != .lt else below == .lt && above == .gt

/-- The largest decimal with last digit at `10 ^ k` that is not above the value. -/
def Interval.floor (i : Interval) (k : Int) : Scientific :=
  ⟨i.middle * twoTo i.exponent * tenTo (-k) / (tenTo k * twoTo (-i.exponent)), k⟩

/-- The decimal with last digit at `10 ^ k` that rounds to the double, if there is one: of the two
neighbours of the value, the nearer one that does. -/
def Interval.onGrid? (i : Interval) (k : Int) : Option Scientific :=
  let low := i.floor k
  let high : Scientific := ⟨low.significand + 1, k⟩
  let nearer :=
    match compareScaled (2 * i.middle) i.exponent (2 * low.significand + 1) k with
    | .lt => [low, high]
    | .gt => [high, low]
    | .eq => if low.significand % 2 = 0 then [low, high] else [high, low]
  nearer.find? i.holds

/-- The power of ten of the first digit of the value, found upwards from a guess that is not too
large. -/
def Interval.leading (i : Interval) : Nat → Int → Int
  | 0, p => p
  | fuel + 1, p =>
    if compareScaled i.middle i.exponent 1 (p + 1) == .lt then p else i.leading fuel (p + 1)

/-- A guess of the first digit's power of ten: 0.30103 is the logarithm of two, and the guess is
never too large and at most three too small. -/
def Interval.guess (i : Interval) : Int :=
  ((i.middle.log2 : Int) + i.exponent) * 30103 / 100000 - 1

/-- Tries the grids of one digit, two digits, and so on; seventeen digits always suffice. -/
def Interval.search (i : Interval) (first : Int) : Nat → Nat → Scientific
  | 0, n => i.floor (first - n)
  | fuel + 1, n =>
    match i.onGrid? (first - n) with
    | some s => s
    | none => i.search first fuel (n + 1)

/-- The shortest decimal that rounds to a nonzero magnitude. -/
def Dyadic.shortest (d : Dyadic) : Scientific :=
  let i := d.interval
  i.search (i.leading 4 i.guess) 17 0

/-- Removes zeros at the end of the significand. -/
def Scientific.trim (s : Scientific) : Nat → Scientific
  | 0 => s
  | fuel + 1 =>
    if s.significand ≠ 0 ∧ s.significand % 10 = 0 then
      Scientific.trim ⟨s.significand / 10, s.exponent + 1⟩ fuel
    else s

/-- Which powers of ten of the first digit are written without an exponent. -/
structure Layout where
  /-- The smallest such power. -/
  least : Int
  /-- The largest such power. -/
  greatest : Int

/-- Writes a decimal: positionally with at least one digit after the point, or with one digit in
front of the point and a signed exponent. -/
def Layout.write (l : Layout) (s : Scientific) : List Char :=
  let ds := numeral s.significand
  let first : Int := s.exponent + ds.length - 1
  if first < l.least ∨ l.greatest < first then
    let mark := 'e' :: (if first < 0 then '-' else '+') :: numeral first.natAbs
    match ds with
    | [d] => d :: mark
    | d :: rest => d :: '.' :: rest ++ mark
    | [] => mark
  else if first < 0 then
    '0' :: '.' :: List.replicate (first.natAbs - 1) '0' ++ ds
  else if 0 ≤ s.exponent then
    ds ++ List.replicate s.exponent.toNat '0' ++ ['.', '0']
  else
    let whole := (first + 1).toNat
    ds.take whole ++ '.' :: ds.drop whole

/-- The shortest decimal of a double, or `none` when it is not finite. -/
def Layout.shortest? (l : Layout) (x : Float) : Option String :=
  match Reading.ofFloat x with
  | .finite negative d =>
    let sign := if negative then ['-'] else []
    if d.mantissa = 0 then some (String.ofList (sign ++ ['0', '.', '0']))
    else some (String.ofList (sign ++ l.write (d.shortest.trim 17)))
  | _ => none

end BenchRig.Decimal
