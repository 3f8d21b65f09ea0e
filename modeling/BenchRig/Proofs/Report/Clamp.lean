import BenchRig.Proofs.Ansi.Decoration
import BenchRig.Proofs.Report.Labelled

/-!
# Times from arbitrary numbers

A measurement made of a raw number of milliseconds keeps a finite double above zero and puts zero
for everything else. The comparison with zero does not tell the two zeros apart, and the text of a
double does; what is kept is the zero without a sign. So the line of such a measurement is a plain
decimal, whatever the bits of the number are.
-/

namespace BenchRig

/-! ## Doubles beside zero -/

namespace Decimal

open Float.Model (UnpackedFloat)

variable {x y : Float}

theorem lt_iff_compare :
    x < y ↔ UnpackedFloat.compare x.toModel.unpack y.toModel.unpack = some .lt :=
  ⟨fun h => eq_of_beq (of_decide_eq_true h), fun h => decide_eq_true (beq_iff_eq.mpr h)⟩

theorem beq_iff_compare :
    (x == y) = true ↔ UnpackedFloat.compare x.toModel.unpack y.toModel.unpack = some .eq := by
  have hcompare : (x == y) =
      (UnpackedFloat.compare x.toModel.unpack y.toModel.unpack == some .eq) := rfl
  rw [hcompare, beq_iff_eq]

/-- Where a finite double lies. -/
inductive Side (x : Float) : Prop where
  | above (pos : 0 < x) (notNeg : ¬x < 0) (unsigned : Unsigned x) (same : (x == x) = true)
  | zero (notPos : ¬0 < x) (notNeg : ¬x < 0) (same : (0 == x) = true)
  | below (notPos : ¬0 < x) (neg : x < 0)

theorem side_of_finite (hfinite : x.isFinite = true) : Side x := by
  have hunpacked : x.toModel.unpack.isFinite = true := hfinite
  have hreading := Reading.ofFloat_eq x
  have hpos := lt_iff_compare (x := 0) (y := x)
  have hneg := lt_iff_compare (x := x) (y := 0)
  have hzero := beq_iff_compare (x := 0) (y := x)
  have hself := beq_iff_compare (x := x) (y := x)
  have hunsigned : (0 : Float).toModel.unpack = .zero .positive := rfl
  rw [hunsigned] at hpos hneg hzero
  -- Every fact above speaks of the unpacked double, and is decided by its constructor.
  generalize x.toModel.unpack = u at *
  cases u with
  | notANumber => cases hunpacked
  | infinity sign => cases hunpacked
  | zero sign => exact .zero (mt hpos.mp nofun) (mt hneg.mp nofun) (hzero.mpr rfl)
  | finite sign mantissa exponent hmantissa =>
    cases sign with
    | negative => exact .below (mt hpos.mp nofun) (hneg.mpr rfl)
    | positive =>
      have hsame : (compare exponent exponent).then (compare mantissa mantissa) = .eq := by
        rw [Int.compare_eq_eq.mpr rfl, Nat.compare_eq_eq.mpr rfl]
        rfl
      exact .above (hpos.mpr rfl) (mt hneg.mp nofun) (unsigned_iff.mpr ⟨_, hreading⟩)
        (hself.mpr (congrArg some hsame))

theorem above_of_pos (hfinite : x.isFinite = true) (hpos : 0 < x) :
    ¬x < 0 ∧ Unsigned x ∧ (x == x) = true := by
  cases side_of_finite hfinite with
  | above _ hneg hunsigned hsame => exact ⟨hneg, hunsigned, hsame⟩
  | zero hnot => exact absurd hpos hnot
  | below hnot => exact absurd hpos hnot

theorem zero_beq (hfinite : x.isFinite = true) (hpos : ¬0 < x) (hneg : ¬x < 0) :
    (0 == x) = true := by
  cases side_of_finite hfinite with
  | above h => exact absurd h hpos
  | zero _ _ hsame => exact hsame
  | below _ h => exact absurd h hneg

theorem eq_of_toBits_eq (h : x.toBits = y.toBits) : x = y := by
  obtain ⟨⟨bits, hbits⟩⟩ := x
  obtain ⟨⟨bits', hbits'⟩⟩ := y
  obtain rfl : bits = bits' := h
  rfl

theorem Reading.eq_zero_of_ofBits {bits : UInt64} (h : ofBits bits = .finite false ⟨0, -1074⟩) :
    bits = 0 := by
  unfold ofBits leadingBit at h
  dsimp only at h
  have hlt := bits.toNat_lt
  apply UInt64.toNat_inj.mp
  split_ifs at h with _ hexponent
  · obtain ⟨hsign, hmagnitude⟩ := Reading.finite.inj h
    have hfraction := congrArg Dyadic.mantissa hmagnitude
    rw [beq_eq_false_iff_ne] at hsign
    dsimp only at hfraction
    rw [UInt64.toNat_zero]
    omega
  · have hfraction := congrArg Dyadic.mantissa (Reading.finite.inj h).2
    dsimp only at hfraction
    omega

/-- There is only one zero without a sign. -/
theorem eq_zero_of_unsigned (hx : Unsigned x) (hpos : ¬0 < x) : x = 0 := by
  obtain ⟨d, hd⟩ := unsigned_iff.mp hx
  obtain ⟨-, rfl⟩ | ⟨hmantissa, hunpack⟩ := unpack_of_ofFloat hd
  · exact eq_of_toBits_eq (Reading.eq_zero_of_ofBits hd)
  · rw [lt_iff_compare, hunpack] at hpos
    exact absurd rfl hpos

theorem unsigned_zero : Unsigned 0 := ⟨by decide, by decide⟩

end Decimal

open Decimal

variable {x : Float}

/-! ## What is kept -/

namespace Measurement

theorem elapsed_ofMillis (label : String) (x : Float) :
    (ofMillis label x).elapsed = if x.isFinite = true ∧ 0 < x then x else 0 := by
  rw [ofMillis, ite_and]

/-- Whatever a measurement is made of, its time is finite and has no sign. -/
theorem unsigned_ofMillis (label : String) (x : Float) : Unsigned (ofMillis label x).elapsed := by
  rw [elapsed_ofMillis]
  split_ifs with hkept
  · exact (above_of_pos hkept.1 hkept.2).2.1
  · exact unsigned_zero

theorem elapsed_ofMillis_of_unsigned (hx : Unsigned x) (label : String) :
    (ofMillis label x).elapsed = x := by
  rw [elapsed_ofMillis]
  split_ifs with hkept
  · rfl
  · exact (eq_zero_of_unsigned hx fun hpos => hkept ⟨hx.finite, hpos⟩).symm

theorem elapsed_ofMillis_beq (hfinite : x.isFinite = true) (hneg : ¬x < 0) (label : String) :
    ((ofMillis label x).elapsed == x) = true := by
  rw [elapsed_ofMillis]
  split_ifs with hkept
  · exact (above_of_pos hkept.1 hkept.2).2.2
  · exact zero_beq hfinite (fun hpos => hkept ⟨hfinite, hpos⟩) hneg

theorem elapsed_ofMillis_of_clamped (h : ¬(x.isFinite = true ∧ ¬x < 0)) (label : String) :
    (ofMillis label x).elapsed = 0 := by
  rw [elapsed_ofMillis]
  exact if_neg fun hkept => h ⟨hkept.1, (above_of_pos hkept.1 hkept.2).1⟩

end Measurement

/-! ## What is shown -/

namespace Report

open Ansi

theorem Theme.line_measurement (terminal : Bool) (t : Theme) (m : Measurement) :
    ∃ value, t.line terminal (.measurement m) = m.name ++ ": " ++ value ∧
      strip value.toList = strip (millis m.elapsed).toList := by
  cases t with
  | plain => exact ⟨millis m.elapsed, rfl, rfl⟩
  | coloured enabled bold => exact ⟨_, rfl, strip_tinted terminal enabled _ _⟩

/-- A measurement made of any double whatsoever keeps it if it is finite and not below zero, and is
zero otherwise; it never has a sign, so a zero with one is kept as the zero without. Its line is the
label, a colon and a blank, and what reads in each theme, without sequences, as a plain decimal with
one digit behind the point and the unit. -/
theorem kept_of_millis (label : String) (x : Float) :
    let m := Measurement.ofMillis label x
    (x.isFinite = true → ¬x < 0 → (m.elapsed == x) = true ∧ (Unsigned x → m.elapsed = x)) ∧
      (¬(x.isFinite = true ∧ ¬x < 0) → m.elapsed = 0) ∧ Unsigned m.elapsed ∧
      ∃ (cs : List Char) (n : ℕ), IsFixed 1 cs (n / 10) ∧ Nearest (1 / 10) (exact m.elapsed) n ∧
        (∀ terminal, Theme.plain.line terminal (.measurement m) =
          label ++ ": " ++ (String.ofList cs ++ "ms")) ∧
        ∀ terminal (t : Theme), ∃ value,
          t.line terminal (.measurement m) = label ++ ": " ++ value ∧
            strip value.toList = cs ++ "ms".toList := by
  intro m
  have hunsigned : Unsigned m.elapsed := Measurement.unsigned_ofMillis label x
  refine ⟨?_, ?_, hunsigned, ?_⟩
  · intro hfinite hneg
    exact ⟨Measurement.elapsed_ofMillis_beq hfinite hneg label,
      fun hx => Measurement.elapsed_ofMillis_of_unsigned hx label⟩
  · intro h
    exact Measurement.elapsed_ofMillis_of_clamped h label
  · obtain ⟨n, htext, hnearest⟩ := fixed_of_unsigned hunsigned 1
    rw [pow_one] at hnearest
    have hfixed : IsFixed 1 (fixedNumeral 1 n) (n / 10) := by
      simpa using isFixed_fixedNumeral Nat.one_pos n
    have hmillis : millis m.elapsed = String.ofList (fixedNumeral 1 n) ++ "ms" := by
      rw [millis, htext]
    have hescape : escape ∉ fixedNumeral 1 n ++ "ms".toList := by
      rw [List.mem_append, not_or]
      exact ⟨hfixed.notMem (by decide) (by decide), by decide⟩
    refine ⟨fixedNumeral 1 n, n, hfixed, hnearest, ?_, ?_⟩
    · intro terminal
      rw [← hmillis]
      rfl
    · intro terminal t
      obtain ⟨value, hline, hvalue⟩ := Theme.line_measurement terminal t m
      refine ⟨value, hline, ?_⟩
      rw [hvalue, hmillis, String.toList_append, String.toList_ofList, strip_plain hescape]

example : measurementLine (.ofMillis "x" (-0.0)) = "x: 0.0ms" := by decide +kernel

-- Without the comparison the sign of a zero would show.
example : measurementLine ⟨"x", -0.0⟩ = "x: -0.0ms" := by decide +kernel

end Report

end BenchRig
