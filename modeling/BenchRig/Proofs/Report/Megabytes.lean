import BenchRig.Proofs.Decimal.Conversion
import BenchRig.Proofs.Report.Labelled

/-!
# Bytes in a report

A number of bytes becomes a double, rounded to 53 bits, and is divided by 1024 twice, which is exact.
So the decimal shown is the nearest one of the exact quotient as long as the bytes fit into 53 bits,
and is off by the rounding of the conversion otherwise.
-/

namespace BenchRig.Report

open Decimal

theorem exact_megabytes (b : UInt64) :
    Unsigned (megabytes b) ∧ exact (megabytes b) = rounded b.toNat / 2 ^ 20 := by
  by_cases hb : b = 0
  · subst hb
    have hvalue : exact (megabytes 0) = 0 := rfl
    have hnothing : rounded (0 : UInt64).toNat = 0 := rfl
    rw [hvalue, hnothing, Nat.cast_zero, zero_div]
    exact ⟨⟨by decide, by decide⟩, rfl⟩
  have hn : b.toNat ≠ 0 := fun h => hb (UInt64.toNat_inj.mp h)
  obtain ⟨hunsigned, hexact⟩ := exact_toFloat b
  have hone : (1 : ℚ) ≤ exact b.toFloat := by
    have hpow : 1 ≤ rounded b.toNat := (Nat.one_le_two_pow).trans (rounded_bounds hn).1
    rw [hexact]
    exact_mod_cast hpow
  have hsmall : (2 : ℚ) ^ (-1000 : ℤ) ≤ 1 / 1024 := by
    have hpow : (2 : ℚ) ^ (-10 : ℤ) = 1 / 1024 := by norm_num
    rw [← hpow]
    exact zpow_le_zpow_right₀ one_le_two (by decide)
  obtain ⟨hkilo, hvalue⟩ := exact_div_1024 hunsigned (by linarith)
  obtain ⟨hmega, hvalue'⟩ := exact_div_1024 hkilo (by rw [hvalue]; linarith)
  refine ⟨hmega, ?_⟩
  rw [megabytes, hvalue', hvalue, hexact]
  ring

/-- The line of a number of bytes shows the nearest multiple of a tenth of the exact quotient while
the bytes are at most `2 ^ 53`, is never further off than the conversion to a double allows, and
shows more bytes never as a smaller number. -/
theorem nearest_of_bytes (label : String) (b : UInt64) :
    ∃ n, Shows 1 label " MB" (memoryLine label b) n ∧
      (b.toNat ≤ 2 ^ 53 → Nearest (1 / 10) (b.toNat / 2 ^ 20) n) ∧
      |(b.toNat / 2 ^ 20 : ℚ) - n * (1 / 10)| ≤ 1 / 20 + 1 / 2 ^ 10 ∧
      ∀ (other : String) (b' : UInt64), b ≤ b' →
        ∀ m, Shows 1 other " MB" (memoryLine other b') m → n ≤ m := by
  have hunit : ':' ∉ " MB".toList := by decide
  obtain ⟨hunsigned, hexact⟩ := exact_megabytes b
  obtain ⟨n, hshows, hnearest⟩ := shows_fixed (by decide : 0 < 1) hunit hunsigned label
  rw [pow_one] at hnearest
  refine ⟨n, hshows, ?_, ?_, ?_⟩
  · intro hle
    rw [hexact, rounded_of_le hle] at hnearest
    exact hnearest
  · have hshown := hnearest.error (by positivity)
    rw [hexact] at hshown
    have hlost := rounded_error_of_lt b.toNat_lt
    have hscaled : |(b.toNat / 2 ^ 20 : ℚ) - rounded b.toNat / 2 ^ 20| ≤ 1 / 2 ^ 10 := by
      rw [← sub_div, abs_div, abs_of_pos (by positivity : (0 : ℚ) < 2 ^ 20)]
      linarith
    have htriangle := abs_sub_le (b.toNat / 2 ^ 20 : ℚ) (rounded b.toNat / 2 ^ 20) (n * (1 / 10))
    linarith
  · intro other b' hle m hm
    obtain ⟨hunsigned', hexact'⟩ := exact_megabytes b'
    have hrounded : rounded b.toNat ≤ rounded b'.toNat := rounded_mono (UInt64.le_iff_toNat_le.mp hle)
    have hvalues : exact (megabytes b) ≤ exact (megabytes b') := by
      rw [hexact, hexact']
      have hcast : (rounded b.toNat : ℚ) ≤ rounded b'.toNat := by exact_mod_cast hrounded
      gcongr
    exact shows_mono (by decide) hunit hunsigned hunsigned' hvalues hshows hm

theorem nearest_of_quarterMegabyte :
    (262144 : UInt64).toNat ≤ 2 ^ 53 ∧ (262144 : UInt64) ≤ 0xffffffffffffffff ∧
      ∃ n, Shows 1 "heap" " MB" (memoryLine "heap" 262144) n ∧
        Nearest (1 / 10) ((262144 : UInt64).toNat / 2 ^ 20) n ∧
        |((262144 : UInt64).toNat / 2 ^ 20 : ℚ) - n * (1 / 10)| ≤ 1 / 20 + 1 / 2 ^ 10 ∧
        ∀ m, Shows 1 "all" " MB" (memoryLine "all" 0xffffffffffffffff) m → n ≤ m := by
  have hfew : (262144 : UInt64).toNat ≤ 2 ^ 53 := by decide
  have hle : (262144 : UInt64) ≤ 0xffffffffffffffff := by decide
  obtain ⟨n, hshows, hnearest, herror, hmono⟩ := nearest_of_bytes "heap" 262144
  exact ⟨hfew, hle, n, hshows, hnearest hfew, herror, hmono "all" _ hle⟩

example : memoryLine "all" 0xffffffffffffffff = "all: 17592186044416.0 MB" := by decide +kernel

end BenchRig.Report
