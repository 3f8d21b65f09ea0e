import BenchRig.Proofs.Report.Labelled

/-!
# Times in a report

Milliseconds are shown with one decimal and averages with three: the nearest such decimals of the
exact value of the double, however large or small it is.
-/

namespace BenchRig.Report

open Decimal

/-- The lines of a time and of an average show the nearest multiple of the last place, behind a
label of any making, and a greater time never as a smaller number. -/
theorem nearest_of_elapsed (label : String) (x : Float) (hx : Unsigned x) :
    (∃ n, Shows 1 label "ms" (measurementLine ⟨label, x⟩) n ∧ Nearest (1 / 10) (exact x) n ∧
        |exact x - n * (1 / 10)| ≤ 1 / 20) ∧
      (∃ n, Shows 3 label "ms" (averageLine label x) n ∧ Nearest (1 / 1000) (exact x) n ∧
        |exact x - n * (1 / 1000)| ≤ 1 / 2000) ∧
      ∀ (other : String) (y : Float), Unsigned y → x ≤ y →
        (∀ n m, Shows 1 label "ms" (measurementLine ⟨label, x⟩) n →
          Shows 1 other "ms" (measurementLine ⟨other, y⟩) m → n ≤ m) ∧
        ∀ n m, Shows 3 label "ms" (averageLine label x) n →
          Shows 3 other "ms" (averageLine other y) m → n ≤ m := by
  have hunit : ':' ∉ "ms".toList := by decide
  refine ⟨?_, ?_, ?_⟩
  · obtain ⟨n, hshows, hnearest⟩ := shows_fixed (by decide : 0 < 1) hunit hx label
    rw [pow_one] at hnearest
    have herror := hnearest.error (by positivity)
    exact ⟨n, hshows, hnearest, by linarith⟩
  · obtain ⟨n, hshows, hnearest⟩ := shows_fixed (by decide : 0 < 3) hunit hx label
    have hstep : (10 : ℚ) ^ 3 = 1000 := by norm_num
    rw [hstep] at hnearest
    have herror := hnearest.error (by positivity)
    exact ⟨n, hshows, hnearest, by linarith⟩
  · intro other y hy hle
    have hvalues := exact_mono hx hy hle
    constructor
    · intro n m hn hm
      exact shows_mono (by decide) hunit hx hy hvalues hn hm
    · intro n m hn hm
      exact shows_mono (by decide) hunit hx hy hvalues hn hm

/-- A quarter lies between two tenths, and the number next to it carries into the whole part. -/
theorem nearest_of_quarter :
    Unsigned 0.25 ∧ Unsigned 1999.96 ∧ (0.25 : Float) ≤ 1999.96 ∧
      (∃ n, Shows 1 "a: 1ms" "ms" (measurementLine ⟨"a: 1ms", 0.25⟩) n ∧
        Nearest (1 / 10) (exact 0.25) n ∧ |exact 0.25 - n * (1 / 10)| ≤ 1 / 20) ∧
      (∃ n, Shows 3 "a: 1ms" "ms" (averageLine "a: 1ms" 0.25) n ∧
        Nearest (1 / 1000) (exact 0.25) n ∧ |exact 0.25 - n * (1 / 1000)| ≤ 1 / 2000) ∧
      ∀ n m, Shows 1 "a: 1ms" "ms" (measurementLine ⟨"a: 1ms", 0.25⟩) n →
        Shows 1 "b" "ms" (measurementLine ⟨"b", 1999.96⟩) m → n ≤ m := by
  have hquarter : Unsigned 0.25 := ⟨by decide, by decide⟩
  have hcarry : Unsigned 1999.96 := ⟨by decide, by decide⟩
  have hle : (0.25 : Float) ≤ 1999.96 := by decide
  obtain ⟨hmeasurement, haverage, hmono⟩ := nearest_of_elapsed "a: 1ms" 0.25 hquarter
  exact ⟨hquarter, hcarry, hle, hmeasurement, haverage, (hmono "b" 1999.96 hcarry hle).1⟩

example : measurementLine ⟨"a: 1ms", 0.25⟩ = "a: 1ms: 0.2ms" := by decide +kernel

example : measurementLine ⟨"b", 1999.96⟩ = "b: 2000.0ms" := by decide +kernel

end BenchRig.Report
