import BenchRig.Text.Ranges

/-!
# Punycode

Text as letters, digits and hyphens. The ASCII characters stand in front; behind the last hyphen
follow the other ones, in ascending order, each as the number of places that an insertion skips,
counted over all smaller characters and all positions. These numbers are written in base 36 with the
lowest digit first; a digit below a threshold is the last one, and the thresholds follow the size of
the numbers seen so far.
-/

namespace BenchRig.Url.Punycode

open Text (isAscii)

/-- A digit in base 36: letters, then decimal digits. -/
def digitChar (d : Nat) : Char :=
  if d < 26 then Char.ofNat ('a'.toNat + d) else Char.ofNat ('0'.toNat + d - 26)

/-- The value of a digit in base 36, in either case. -/
def digitValue? (c : Char) : Option Nat :=
  if 'a' ≤ c ∧ c ≤ 'z' then some (c.toNat - 'a'.toNat)
  else if 'A' ≤ c ∧ c ≤ 'Z' then some (c.toNat - 'A'.toNat)
  else if '0' ≤ c ∧ c ≤ '9' then some (c.toNat - '0'.toNat + 26)
  else none

/-- The threshold of the digit at weight `k`: from 1 to 26. -/
def threshold (k bias : Nat) : Nat := min 26 (max 1 (k - bias))

/-- Divides by 35 until little is left, and adds 36 to `k` for each division. -/
def settle (delta k : Nat) : Nat × Nat :=
  if h : 455 < delta then settle (delta / 35) (k + 36) else (delta, k)
termination_by delta
decreasing_by exact Nat.div_lt_self (by omega) (by omega)

/-- The bias after a number has been written for the character that makes `count` of them. -/
def adapt (delta count : Nat) (first : Bool) : Nat :=
  let halved := if first then delta / 700 else delta / 2
  let (rest, k) := settle (halved + halved / count) 0
  k + 36 * rest / (rest + 38)

/-- Where the text of a number has got to, and where the next one starts. -/
structure State where
  /-- How many characters are placed. -/
  placed : Nat
  /-- The bias of the thresholds. -/
  bias : Nat := 72
  /-- Whether no number has been written yet. -/
  fresh : Bool := true

/-- The state after a number. -/
def State.next (s : State) (delta : Nat) : State :=
  ⟨s.placed + 1, adapt delta (s.placed + 1) s.fresh, false⟩

/-! ## Writing -/

/-- Writes a number, from the digit at weight `k` on. -/
def encodeNumber (bias k n : Nat) : List Char :=
  let t := threshold k bias
  if h : n < t then [digitChar n]
  else digitChar (t + (n - t) % (36 - t)) :: encodeNumber bias (k + 36) ((n - t) / (36 - t))
termination_by n
decreasing_by
  have : 1 ≤ threshold k bias := by unfold threshold; omega
  calc (n - threshold k bias) / (36 - threshold k bias)
      ≤ n - threshold k bias := Nat.div_le_self _ _
    _ < n := by omega

/-- Writes all places of the character `c`. `delta` counts what has been skipped since the last
number. -/
def encodePlaces (c : Char) : List Char → Nat → State → List Char × Nat × State
  | [], delta, s => ([], delta, s)
  | x :: xs, delta, s =>
    if x < c then encodePlaces c xs (delta + 1) s
    else if x = c then
      let (out, rest) := encodePlaces c xs 0 (s.next delta)
      (encodeNumber s.bias 36 delta ++ out, rest)
    else encodePlaces c xs delta s

/-- Writes the characters of a text from a list, all of them above ASCII. `low` is the least code
point that has not been passed. -/
def encodeChars (text : List Char) : List Char → Nat → Nat → State → List Char
  | [], _, _, _ => []
  | c :: cs, low, delta, s =>
    let skipped := delta + (c.toNat - low) * (s.placed + 1)
    let (out, delta, s) := encodePlaces c text skipped s
    out ++ encodeChars text cs (c.toNat + 1) (delta + 1) s

/-- Writes a text. -/
def encode (text : List Char) : List Char :=
  let basic := text.filter isAscii
  let others := ((text.filter (!isAscii ·)).mergeSort (· ≤ ·)).eraseDups
  basic ++ (if basic.isEmpty then [] else ['-'])
    ++ encodeChars text others 128 0 { placed := basic.length }

/-! ## Reading -/

/-- Reads a number, from the digit at weight `k` on: the number, and what follows it. The weights of
digits must fit into 32 bits. -/
def decodeNumber (bias : Nat) : Nat → Nat → Nat → List Char → Option (Nat × List Char)
  | _, _, _, [] => none
  | k, weight, n, c :: cs => do
    let d ← digitValue? c
    let t := threshold k bias
    if d < t then return (n + d * weight, cs)
    else if weight * (36 - t) < UInt32.size then
      decodeNumber bias (k + 36) (weight * (36 - t)) (n + d * weight) cs
    else none

/-- Inserts the characters that numbers stand for. `place` counts the places up to the last
insertion, over all characters from `low` on. -/
def decodeChars : Nat → List Char → Nat → Nat → State → List Char → Option (List Char)
  | _, text, _, _, _, [] => some text
  | 0, _, _, _, _, _ :: _ => none
  | fuel + 1, text, low, place, s, cs => do
    let (delta, rest) ← decodeNumber s.bias 36 1 0 cs
    let total := place + delta
    let code := low + total / (s.placed + 1)
    let i := total % (s.placed + 1)
    if code.isValidChar then
      decodeChars fuel (text.take i ++ Char.ofNat code :: text.drop i) code (i + 1) (s.next delta)
        rest
    else none

/-- Reads a text. A hyphen has at least one character in front of it. -/
def decode (cs : List Char) : Option (List Char) :=
  let reversed := cs.reverse
  let digits := (reversed.takeWhile (· ≠ '-')).reverse
  let basic := ((reversed.dropWhile (· ≠ '-')).drop 1).reverse
  if basic.all isAscii ∧ (basic.isEmpty → digits.length = cs.length) then
    decodeChars digits.length basic 128 0 { placed := basic.length } digits
  else none

end BenchRig.Url.Punycode
