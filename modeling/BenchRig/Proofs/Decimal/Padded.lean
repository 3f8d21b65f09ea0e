import BenchRig.Proofs.Json.Numeral
import Mathlib.Algebra.Ring.Nat
import Mathlib.Data.List.Basic

/-!
# Numerals of a fixed width

A numeral that is filled up with zeros is a string of digits and denotes the number it was made
from. It has the given width unless the number needs more digits.
-/

namespace BenchRig.Decimal

open Json (digitsOf ofDigits)

/-- A string of digits, at least one, that denotes `n`. -/
structure Denotes (ds : List Char) (n : Nat) : Prop where
  nonempty : ds ≠ []
  digits : ∀ c ∈ ds, (digitValue? c).isSome
  value : denoted ds = n

theorem digitsOf_lt {n d : Nat} (h : d ∈ digitsOf n) : d < 10 := by
  induction n using Nat.strongRecOn with
  | ind n ih =>
    by_cases hn : n < 10
    · rw [Json.digitsOf_small hn, List.mem_singleton] at h
      omega
    · rw [Json.digitsOf_large hn, List.mem_append, List.mem_singleton] at h
      rcases h with hfront | rfl
      · exact ih (n / 10) (by omega) hfront
      · exact Nat.mod_lt n (by decide)

theorem numeralOnto_eq_map (n : Nat) (tail : List Char) :
    numeralOnto n tail = (digitsOf n).map digit ++ tail := by
  induction n using Nat.strongRecOn generalizing tail with
  | ind n ih =>
    rw [numeralOnto]
    by_cases hn : n < 10
    · rw [if_pos hn, Json.digitsOf_small hn]
      rfl
    · rw [if_neg hn, ih (n / 10) (by omega), Json.digitsOf_large hn, List.map_append,
        List.append_assoc]
      rfl

theorem numeral_eq_map (n : Nat) : numeral n = (digitsOf n).map digit := by
  rw [numeral, numeralOnto_eq_map, List.append_nil]

theorem denoted_map_digit {ds : List Nat} (h : ∀ d ∈ ds, d < 10) :
    denoted (ds.map digit) = ofDigits ds := by
  rw [denoted, ofDigits, List.foldl_map]
  refine List.foldl_ext _ _ 0 fun n d hd => ?_
  rw [Json.digitValue?_digit (h d hd)]
  rfl

/-- Zeros in front change nothing. -/
theorem ofDigits_zeros_append (k : Nat) (ds : List Nat) :
    ofDigits (List.replicate k 0 ++ ds) = ofDigits ds := by
  induction k with
  | zero => rfl
  | succ k ih =>
    rw [List.replicate_succ, List.cons_append, ← ih]
    rfl

/-- The digits of a numeral of a fixed width. -/
def paddedDigits (width n : Nat) : List Nat :=
  List.replicate (width - (digitsOf n).length) 0 ++ digitsOf n

theorem paddedNumeral_eq_map (width n : Nat) :
    paddedNumeral width n = (paddedDigits width n).map digit := by
  rw [paddedNumeral, paddedDigits, List.map_append, List.map_replicate, numeral_eq_map,
    List.length_map]
  rfl

theorem paddedDigits_lt {width n d : Nat} (h : d ∈ paddedDigits width n) : d < 10 := by
  rcases List.mem_append.mp h with hzero | hdigit
  · rw [List.eq_of_mem_replicate hzero]
    decide
  · exact digitsOf_lt hdigit

theorem denotes_paddedNumeral (width n : Nat) : Denotes (paddedNumeral width n) n where
  nonempty := by
    rw [paddedNumeral_eq_map, Ne, List.map_eq_nil_iff, paddedDigits, List.append_eq_nil_iff]
    intro h
    exact Json.digitsOf_ne_nil n h.2
  digits c hc := by
    rw [paddedNumeral_eq_map] at hc
    obtain ⟨d, hd, rfl⟩ := List.mem_map.mp hc
    rw [Json.digitValue?_digit (paddedDigits_lt hd)]
    rfl
  value := by
    rw [paddedNumeral_eq_map, denoted_map_digit fun d => paddedDigits_lt, paddedDigits,
      ofDigits_zeros_append, Json.ofDigits_digitsOf]

theorem length_digitsOf_le {width n : Nat} (hwidth : 0 < width) (h : n < 10 ^ width) :
    (digitsOf n).length ≤ width := by
  induction width generalizing n with
  | zero => omega
  | succ width ih =>
    by_cases hn : n < 10
    · rw [Json.digitsOf_small hn, List.length_singleton]
      exact hwidth
    · have hpos : 0 < width := by
        rcases Nat.eq_zero_or_pos width with rfl | hpos
        · omega
        · exact hpos
      have hfront : n / 10 < 10 ^ width := by
        rw [Nat.pow_succ] at h
        omega
      have hlength := ih hpos hfront
      rw [Json.digitsOf_large hn, List.length_append, List.length_singleton]
      omega

theorem length_paddedNumeral {width n : Nat} (hwidth : 0 < width) (h : n < 10 ^ width) :
    (paddedNumeral width n).length = width := by
  have hlength := length_digitsOf_le hwidth h
  rw [paddedNumeral_eq_map, List.length_map, paddedDigits, List.length_append,
    List.length_replicate]
  omega

end BenchRig.Decimal
