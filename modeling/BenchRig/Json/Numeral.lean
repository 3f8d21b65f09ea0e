import BenchRig.Json.Fault

/-!
# JSON numerals

A numeral is read by the grammar first and given its value afterwards. Numerals without fraction and
exponent are integers while they fit into 64 bits. All others are doubles: as many leading digits as
fit into 64 bits, multiplied or divided by a power of ten. That takes at most a few roundings, so
the result can be off by a unit in the last place.
-/

namespace BenchRig.Json

open Decimal (digitValue?)

/-- The parts of a numeral, digits by their values. -/
structure Numeral where
  /-- Whether there is a minus sign. -/
  negative : Bool
  /-- The digits in front of the point. -/
  whole : List Nat
  /-- The digits after the point, if there is one. -/
  fraction : Option (List Nat)
  /-- The exponent's sign and digits, if there is one. -/
  exponent : Option (Bool × List Nat)

/-- A number as a numeral denotes it. -/
inductive Number where
  | integer (n : Integer)
  | double (x : Float)

/-- Two readings of one violation: by a reader who wants the value, and by one who skips it. -/
structure Flaw where
  /-- The fault for a reader who wants the value. -/
  wanted : SyntaxFault
  /-- The fault for a reader who skips it. -/
  skipped : SyntaxFault
  deriving DecidableEq, Repr

/-- A fault that both readers see alike. -/
def Flaw.plain (f : SyntaxFault) : Flaw := ⟨f, f⟩

/-- The digits at the front, and what follows them. -/
def spanDigits : List Char → List Nat × List Char
  | [] => ([], [])
  | c :: cs =>
    match digitValue? c with
    | some d =>
      let (ds, rest) := spanDigits cs
      (d :: ds, rest)
    | none => ([], c :: cs)

/-- The digits that must come next, and what follows them. -/
def someDigits (cs : List Char) : Except Flaw (List Nat × List Char) :=
  match spanDigits cs with
  | ([], []) => .error ⟨.endInValue, .invalidNumber⟩
  | ([], _) => .error (.plain .invalidNumber)
  | (ds, rest) => .ok (ds, rest)

/-- The fraction that may follow the digits in front of the point. -/
def readFraction : List Char → Except Flaw (Option (List Nat) × List Char)
  | '.' :: cs => do
    let (ds, rest) ← someDigits cs
    return (some ds, rest)
  | cs => .ok (none, cs)

/-- The exponent that may follow. -/
def readExponent (cs : List Char) : Except Flaw (Option (Bool × List Nat) × List Char) :=
  match cs with
  | c :: rest =>
    if c = 'e' ∨ c = 'E' then
      let (negative, digits) :=
        match rest with
        | '+' :: more => (false, more)
        | '-' :: more => (true, more)
        | more => (false, more)
      match someDigits digits with
      | .ok (ds, rest) => .ok (some (negative, ds), rest)
      | .error f => .error f
    else .ok (none, cs)
  | [] => .ok (none, [])

/-- The numeral at the front, its sign already read; a zero in front stands alone. -/
def readNumeral (negative : Bool) (cs : List Char) : Except Flaw (Numeral × List Char) := do
  let (whole, rest) ← someDigits cs
  if whole.head? = some 0 ∧ whole.length ≠ 1 then
    throw (.plain .invalidNumber)
  let (fraction, rest) ← readFraction rest
  let (exponent, rest) ← readExponent rest
  return (⟨negative, whole, fraction, exponent⟩, rest)

/-- Appends digits to a significand as long as it fits into 64 bits; answers it and the number of
digits that were appended. -/
def appendDigits (significand : Nat) : List Nat → Nat × Nat
  | [] => (significand, 0)
  | d :: ds =>
    if significand * 10 + d < UInt64.size then
      let (s, n) := appendDigits (significand * 10 + d) ds
      (s, n + 1)
    else (significand, 0)

/-- The largest exponent a numeral is taken at. -/
def exponentLimit : Nat := 2147483647

/-- The double nearest to a power of ten. -/
def powerOfTen (n : Nat) : Float := Float.ofScientific 1 false n

/-- Divides by powers of ten, by at most `10 ^ 308` at once. -/
def divideByTens (x : Float) : Nat → Nat → Float
  | 0, _ => x
  | fuel + 1, n =>
    if n ≤ 308 then x / powerOfTen n
    else if x == 0 then x
    else divideByTens (x / powerOfTen 308) fuel (n - 308)

/-- The double for `significand * 10 ^ exponent`; too large a one is an error. -/
def scaled (significand : Nat) (exponent : Int) : Except SyntaxFault Float :=
  let x := (UInt64.ofNat significand).toFloat
  if exponent < 0 then .ok (divideByTens x 5 exponent.natAbs)
  else if exponent ≤ 308 then
    let y := x * powerOfTen exponent.natAbs
    if y.isFinite then .ok y else .error .numberOutOfRange
  else if significand = 0 then .ok x
  else .error .numberOutOfRange

/-- The number that a list of digits denotes. -/
def ofDigits (ds : List Nat) : Nat := ds.foldl (fun n d => 10 * n + d) 0

/-- The double that a numeral with fraction, exponent or too many digits denotes. -/
def Numeral.magnitude (n : Numeral) : Except SyntaxFault Float :=
  let (front, kept) := appendDigits 0 n.whole
  let dropped := n.whole.length - kept
  let (significand, used) := appendDigits front (n.fraction.getD [])
  let point : Int := dropped - used
  match n.exponent with
  | none => scaled significand point
  | some (negative, ds) =>
    let e := ofDigits ds
    if e ≤ exponentLimit then scaled significand (if negative then point - e else point + e)
    else if significand ≠ 0 ∧ ¬ negative then .error .numberOutOfRange
    else .ok 0

/-- The number that a numeral denotes. Minus zero is a double, because no integer has its sign. -/
def Numeral.value (n : Numeral) : Except SyntaxFault Number :=
  let whole := ofDigits n.whole
  let signed : Int := if n.negative then -whole else whole
  if n.fraction.isNone ∧ n.exponent.isNone ∧ ¬ (n.negative ∧ whole = 0) then
    if h : isWord signed then .ok (.integer ⟨signed, h⟩)
    else n.magnitude.map fun x => .double (if n.negative then -x else x)
  else n.magnitude.map fun x => .double (if n.negative then -x else x)

end BenchRig.Json
