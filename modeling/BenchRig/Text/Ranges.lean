/-!
# Sets of characters

Sets of code points as ranges, each with its first and last code point. The ranges of a set are
sorted, and no two of them touch, so that a code point is found by halving.
-/

namespace BenchRig.Text

/-- The first index in `lo..hi` whose range does not end before `n`. -/
def rangeIndex (ranges : Array (Nat × Nat)) (n : Nat) : Nat → Nat → Nat → Nat
  | 0, lo, _ => lo
  | fuel + 1, lo, hi =>
    if hi ≤ lo then lo
    else
      let mid := (lo + hi) / 2
      match ranges[mid]? with
      | some (_, last) =>
        if last < n then rangeIndex ranges n fuel (mid + 1) hi
        else rangeIndex ranges n fuel lo mid
      | none => lo

/-- Whether one of the ranges holds the character. -/
def inRanges (ranges : Array (Nat × Nat)) (c : Char) : Bool :=
  match ranges[rangeIndex ranges c.toNat ranges.size 0 ranges.size]? with
  | some (first, _) => first ≤ c.toNat
  | none => false

/-- Whether a character is one of ASCII. -/
def isAscii (c : Char) : Bool := c.toNat < 128

end BenchRig.Text
