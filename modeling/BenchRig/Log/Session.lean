/-!
# Sessions

Everything that is logged during one run carries the id of its session: 128 bits, of which six are
fixed and all others are random.
-/

namespace BenchRig.Log

/-- The digit at place `i` of a session id made of random bits. The thirteenth digit is the version,
and the seventeenth is one of four that name the layout. -/
def sessionDigit (bits i : Nat) : Char :=
  let d := bits >>> (4 * (31 - i)) % 16
  if i = 12 then '4' else Nat.digitChar (if i = 16 then 8 + d % 4 else d)

/-- The id of a session: five groups of hexadecimal digits, divided by hyphens. -/
def sessionText (bits : Nat) : String :=
  String.ofList ((List.range 32).flatMap fun i =>
    if i = 8 ∨ i = 12 ∨ i = 16 ∨ i = 20 then ['-', sessionDigit bits i] else [sessionDigit bits i])

end BenchRig.Log
