import BenchRig.Decimal.Fixed
import Mathlib.Algebra.Order.Field.Rat
import Mathlib.Algebra.Order.Ring.Rat
import Mathlib.Tactic.FieldSimp
import Mathlib.Tactic.Linarith
import Mathlib.Tactic.Positivity
import Mathlib.Tactic.Ring

/-!
# Nearest multiples

A number is rounded to a multiple of a step: the nearest one and, of two equally near, the even one.
The error is at most half a step, and rounding keeps the order of numbers. Both follow from
nearness alone, so they hold for decimals and for the doubles that whole numbers are converted to.
-/

namespace BenchRig.Decimal

/-- `n` steps are as near to `x` as any number of steps, and `n` is even if another number is as
near. -/
structure Nearest (step x : ℚ) (n : ℕ) : Prop where
  nearest : ∀ k : ℤ, |x - n * step| ≤ |x - k * step|
  even : ∀ k : ℤ, k ≠ n → |x - k * step| = |x - n * step| → n % 2 = 0

variable {step x y : ℚ} {n m : ℕ}

/-! ## Half a step -/

theorem Nearest.error (hstep : 0 < step) (h : Nearest step x n) : |x - n * step| ≤ step / 2 := by
  have hup := h.nearest (n + 1)
  have hdown := h.nearest (n - 1)
  push_cast at hup hdown
  rw [add_one_mul] at hup
  rw [sub_one_mul] at hdown
  rcases abs_cases (x - n * step) with ⟨habs, -⟩ | ⟨habs, -⟩
  · rcases abs_cases (x - (n * step + step)) with ⟨hnext, -⟩ | ⟨hnext, -⟩ <;> linarith
  · rcases abs_cases (x - (n * step - step)) with ⟨hnext, -⟩ | ⟨hnext, -⟩ <;> linarith

theorem step_le_abs_sub (hstep : 0 < step) {k : ℤ} (hk : k ≠ n) :
    step ≤ |(k * step : ℚ) - n * step| := by
  have hdistance : (1 : ℚ) ≤ |(k : ℚ) - n| := by
    have hint : 1 ≤ |k - n| := Int.one_le_abs (sub_ne_zero.mpr hk)
    exact_mod_cast hint
  calc step = 1 * step := (one_mul step).symm
    _ ≤ |(k : ℚ) - n| * step := mul_le_mul_of_nonneg_right hdistance hstep.le
    _ = |(k * step : ℚ) - n * step| := by rw [← sub_mul, abs_mul, abs_of_pos hstep]

theorem nearest_of_error (hstep : 0 < step) (herror : |x - n * step| ≤ step / 2)
    (heven : |x - n * step| = step / 2 → n % 2 = 0) : Nearest step x n := by
  have hfar : ∀ k : ℤ, k ≠ n → step ≤ |x - k * step| + |x - n * step| := by
    intro k hk
    have htriangle := abs_sub_le ((k : ℚ) * step) x (n * step)
    rw [abs_sub_comm ((k : ℚ) * step) x] at htriangle
    exact (step_le_abs_sub hstep hk).trans htriangle
  constructor
  · intro k
    by_cases hk : k = n
    · rw [hk, Int.cast_natCast]
    · have := hfar k hk
      linarith
  · intro k hk htie
    have := hfar k hk
    exact heven (by linarith)

theorem Nearest.mono (hstep : 0 < step) (hx : Nearest step x n) (hy : Nearest step y m)
    (hle : x ≤ y) : n ≤ m := by
  by_contra hlt
  -- In the wrong order, `n` and `m` would be neighbours and `x` and `y` the middle between them; but
  -- of two neighbours only one is even.
  have hxlow := (abs_le.mp (hx.error hstep)).1
  have hyhigh := (abs_le.mp (hy.error hstep)).2
  have hgap : (n - m : ℚ) * step ≤ 1 * step := by linarith
  have hone : n = m + 1 := by
    have hcast : (n : ℚ) ≤ (m + 1 : ℕ) := by
      push_cast
      linarith [le_of_mul_le_mul_right hgap hstep]
    have : n ≤ m + 1 := by exact_mod_cast hcast
    omega
  have hnext : (n * step : ℚ) = m * step + step := by
    rw [hone, Nat.cast_add_one, add_one_mul]
  have hupper : |x - n * step| = step / 2 := by
    rw [abs_of_nonpos (by linarith)]
    linarith
  have hlower : |x - m * step| = step / 2 := by
    rw [abs_of_nonneg (by linarith)]
    linarith
  have hsame : x = y := by linarith
  have hneven : n % 2 = 0 := by
    refine hx.even m (by omega) ?_
    rw [Int.cast_natCast, hupper, hlower]
  have hmeven : m % 2 = 0 := by
    refine hy.even n (by omega) ?_
    rw [Int.cast_natCast, ← hsame, hupper, hlower]
  omega

/-! ## Rounding a quotient -/

theorem roundHalfEven_eq (num den : ℕ) :
    roundHalfEven num den =
      if 2 * (num % den) < den then num / den
      else if den < 2 * (num % den) then num / den + 1
      else if num / den % 2 = 0 then num / den else num / den + 1 := rfl

/-- The error is taken in parts of `1 / den`, so that it is a whole number. -/
theorem roundHalfEven_error (num : ℕ) {den : ℕ} (hden : 0 < den) :
    2 * |(num : ℤ) - roundHalfEven num den * den| ≤ den ∧
      (2 * |(num : ℤ) - roundHalfEven num den * den| = den → roundHalfEven num den % 2 = 0) := by
  set q := num / den with hq
  set t := num % den with ht
  have hnum : (num : ℤ) = q * den + t := by
    rw [Int.mul_comm]
    exact_mod_cast (Nat.div_add_mod num den).symm
  have hrest : t < den := Nat.mod_lt num hden
  have hlow : |(num : ℤ) - q * den| = t := by
    rw [hnum, add_sub_cancel_left, abs_of_nonneg (Int.natCast_nonneg t)]
  have hhigh : |(num : ℤ) - (q + 1 : ℕ) * den| = den - t := by
    rw [hnum, Nat.cast_add_one, add_one_mul, add_sub_add_left_eq_sub, abs_of_neg (by omega)]
    omega
  rw [roundHalfEven_eq, ← hq, ← ht]
  split_ifs with hless hmore heven
  · rw [hlow]
    omega
  · rw [hhigh]
    omega
  · rw [hlow]
    omega
  · rw [hhigh]
    omega

/-- A quotient of whole numbers, counted in steps, is rounded to the nearest number of steps. -/
theorem nearest_roundHalfEven {num den : ℕ} (hden : 0 < den) (hstep : 0 < step)
    (hx : x = num / den * step) : Nearest step x (roundHalfEven num den) := by
  obtain ⟨herror, heven⟩ := roundHalfEven_error num hden
  set r := roundHalfEven num den
  have hpos : (0 : ℚ) < den := by exact_mod_cast hden
  have hscale : x - r * step = ((num : ℤ) - r * den : ℤ) * (step / den) := by
    rw [hx]
    push_cast
    field_simp
  have hdistance : |x - r * step| = |(num : ℤ) - r * den| * (step / den) := by
    rw [hscale, abs_mul, abs_of_pos (div_pos hstep hpos), Int.cast_abs]
  have hhalf : step / 2 = den / 2 * (step / den) := by field_simp
  have hunit : 0 < step / den := div_pos hstep hpos
  apply nearest_of_error hstep
  · have hcast : ((2 * |(num : ℤ) - r * den| : ℤ) : ℚ) ≤ den := by exact_mod_cast herror
    push_cast at hcast
    rw [hdistance, hhalf]
    refine mul_le_mul_of_nonneg_right ?_ hunit.le
    push_cast
    linarith
  · intro htie
    rw [hdistance, hhalf] at htie
    have hcast := mul_right_cancel₀ hunit.ne' htie
    refine heven ?_
    have : ((2 * |(num : ℤ) - r * den| : ℤ) : ℚ) = den := by
      push_cast at hcast ⊢
      linarith
    exact_mod_cast this

end BenchRig.Decimal
