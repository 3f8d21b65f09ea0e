import BenchRig.Decimal.Double
import Mathlib.Algebra.Order.Field.Rat
import Mathlib.Algebra.Order.Ring.Rat
import Mathlib.Algebra.Order.Field.Power
import Mathlib.Tactic.Linarith
import Mathlib.Tactic.Positivity

/-!
# Doubles and their exact values

The reading of a double's bits is compared with what the double is unpacked to for arithmetic: both
are the same number. Among doubles without a sign, comparing doubles is comparing these numbers,
since a mantissa fills its 53 bits unless the exponent is the least one.
-/

namespace BenchRig.Decimal

open Float.Model (UnpackedFloat Format)
open Float.Model.UnpackedFloat (Sign)

/-- The exact value of a double; what is not finite counts as zero. -/
def exact (x : Float) : ℚ :=
  match x.toModel.unpack with
  | .finite sign mantissa exponent _ => sign.apply mantissa * 2 ^ exponent
  | _ => 0

/-- A finite double whose sign bit is clear. -/
structure Unsigned (x : Float) : Prop where
  finite : x.isFinite = true
  signBit : x.toBits.toNat < 2 ^ 63

/-- The number as a rational one. -/
def Dyadic.value (d : Dyadic) : ℚ := d.mantissa * 2 ^ d.exponent

/-! ## Reading bits -/

/-- What the parts of a double stand for. -/
def Reading.ofUnpacked : UnpackedFloat → Reading
  | .notANumber => .nan
  | .infinity sign => .infinite (sign == .negative)
  | .zero sign => .finite (sign == .negative) ⟨0, -1074⟩
  | .finite sign mantissa exponent _ => .finite (sign == .negative) ⟨mantissa, exponent⟩

theorem Reading.ofUnpacked_zero (sign : Sign) :
    ofUnpacked (.zero sign) = .finite (sign == .negative) ⟨0, -1074⟩ := rfl

theorem Reading.ofUnpacked_finite (sign : Sign) (mantissa : ℕ) (exponent : ℤ)
    (hpos : 0 < mantissa) :
    ofUnpacked (.finite sign mantissa exponent hpos) =
      .finite (sign == .negative) ⟨mantissa, exponent⟩ := rfl

theorem Reading.ofUnpacked_infinity (sign : Sign) :
    ofUnpacked (.infinity sign) = .infinite (sign == .negative) := rfl

section Bits

variable (b : BitVec Format.binary64.numBits)

theorem toNat_unpackMantissa :
    (UnpackedFloat.unpackMantissa b).toNat = b.toNat % leadingBit := by
  simp [UnpackedFloat.unpackMantissa, leadingBit]

theorem toNat_unpackExponent :
    (UnpackedFloat.unpackExponent b).toNat = b.toNat / leadingBit % 2048 := by
  simp [UnpackedFloat.unpackExponent, leadingBit, Nat.shiftRight_eq_div_pow]

theorem toNat_unpackSign :
    (UnpackedFloat.unpackSign b).toNat = b.toNat / (leadingBit * 2048) % 2 := by
  unfold UnpackedFloat.unpackSign
  simp [leadingBit, Nat.shiftRight_eq_div_pow]

theorem unpackExponent_eq_iff {k : ℕ} (hk : k < 2048) :
    UnpackedFloat.unpackExponent b = BitVec.ofNat _ k ↔ b.toNat / leadingBit % 2048 = k := by
  rw [← BitVec.toNat_inj, toNat_unpackExponent, BitVec.toNat_ofNat]
  exact Eq.congr_right (Nat.mod_eq_of_lt hk)

theorem unpackMantissa_eq_zero_iff :
    UnpackedFloat.unpackMantissa b = 0#_ ↔ b.toNat % leadingBit = 0 := by
  rw [← BitVec.toNat_inj, toNat_unpackMantissa, BitVec.toNat_zero]

theorem sign_eq_negative :
    (Sign.ofBitVec (UnpackedFloat.unpackSign b) == .negative) =
      (b.toNat / (leadingBit * 2048) == 1) := by
  have hsign := toNat_unpackSign b
  have hlt : b.toNat < 2 ^ 64 := b.isLt
  have hle : b.toNat / (leadingBit * 2048) < 2 := by
    rw [leadingBit]
    omega
  rw [Nat.mod_eq_of_lt hle] at hsign
  rw [← hsign, Sign.ofBitVec]
  by_cases hzero : UnpackedFloat.unpackSign b = 0#1
  · rw [if_pos hzero, hzero]
    rfl
  · have hone : (UnpackedFloat.unpackSign b).toNat = 1 := by
      have hne : (UnpackedFloat.unpackSign b).toNat ≠ 0 := fun h => hzero (BitVec.eq_of_toNat_eq h)
      omega
    rw [if_neg hzero, hone]
    rfl

theorem toNat_withLeadingBit :
    (1#1 ++ UnpackedFloat.unpackMantissa b).toNat = leadingBit + b.toNat % leadingBit := by
  rw [BitVec.toNat_append, ← Nat.shiftLeft_add_eq_or_of_lt (BitVec.isLt _), toNat_unpackMantissa]
  rfl

theorem Reading.ofBits_eq :
    Reading.ofBits (UInt64.ofBitVec b) = .ofUnpacked (UnpackedFloat.unpack Format.binary64 b) := by
  have hn : (UInt64.ofBitVec b).toNat = b.toNat := rfl
  have hgreatest : UnpackedFloat.unpackExponent b = -1#_ ↔ b.toNat / leadingBit % 2048 = 2047 :=
    unpackExponent_eq_iff b (by decide)
  have hleast : UnpackedFloat.unpackExponent b = 0#_ ↔ b.toNat / leadingBit % 2048 = 0 :=
    unpackExponent_eq_iff b (by decide)
  unfold Reading.ofBits
  simp only [hn]
  unfold UnpackedFloat.unpack
  dsimp only
  by_cases hinfinite : b.toNat / leadingBit % 2048 = 2047
  · rw [if_pos hinfinite, if_pos (hgreatest.mpr hinfinite)]
    by_cases hfraction : b.toNat % leadingBit = 0
    · rw [if_pos hfraction, if_pos ((unpackMantissa_eq_zero_iff b).mpr hfraction),
        ofUnpacked_infinity, sign_eq_negative]
    · rw [if_neg hfraction, if_neg (mt (unpackMantissa_eq_zero_iff b).mp hfraction)]
      rfl
  · rw [if_neg hinfinite, if_neg (mt hgreatest.mp hinfinite)]
    by_cases hsmall : b.toNat / leadingBit % 2048 = 0
    · rw [if_pos hsmall, if_pos (hleast.mpr hsmall)]
      by_cases hfraction : b.toNat % leadingBit = 0
      · rw [dif_pos ((unpackMantissa_eq_zero_iff b).mpr hfraction), ofUnpacked_zero,
          sign_eq_negative, hfraction]
      · rw [dif_neg (mt (unpackMantissa_eq_zero_iff b).mp hfraction), ofUnpacked_finite,
          sign_eq_negative, toNat_unpackMantissa, toNat_unpackExponent, hsmall]
        rfl
    · rw [if_neg hsmall, if_neg (mt hleast.mp hsmall), ofUnpacked_finite, sign_eq_negative,
        toNat_withLeadingBit, toNat_unpackExponent]
      rfl

end Bits

theorem Reading.ofFloat_eq (x : Float) : Reading.ofFloat x = .ofUnpacked x.toModel.unpack :=
  ofBits_eq x.toBits.toBitVec

/-! ## Doubles without a sign -/

variable {x y : Float} {d d' : Dyadic} {negative : Bool}

theorem sign_of_ofFloat (h : Reading.ofFloat x = .finite negative d) :
    negative = (x.toBits.toNat / (leadingBit * 2048) == 1) := by
  rw [Reading.ofFloat, Reading.ofBits] at h
  split_ifs at h
  · exact ((Reading.finite.inj h).1).symm
  · exact ((Reading.finite.inj h).1).symm

/-- The mantissa of a finite double has 53 bits, unless the exponent is the least one. -/
structure Dyadic.Canonical (d : Dyadic) : Prop where
  mantissa_lt : d.mantissa < 2 ^ 53
  least_le : -1074 ≤ d.exponent
  le_greatest : d.exponent ≤ 971
  filled : 2 ^ 52 ≤ d.mantissa ∨ d.exponent = -1074

theorem canonical_of_ofFloat (h : Reading.ofFloat x = .finite negative d) : d.Canonical := by
  rw [Reading.ofFloat, Reading.ofBits] at h
  have hfraction : x.toBits.toNat % leadingBit < leadingBit := Nat.mod_lt _ (by decide)
  have hleading : leadingBit = 2 ^ 52 := rfl
  split_ifs at h
  · obtain rfl := (Reading.finite.inj h).2
    refine ⟨?_, le_rfl, ?_, .inr rfl⟩ <;> dsimp only <;> omega
  · obtain rfl := (Reading.finite.inj h).2
    rw [Int.ofNat_eq_natCast]
    refine ⟨?_, ?_, ?_, .inl ?_⟩ <;> dsimp only <;> omega

theorem isFinite_iff : x.isFinite = true ↔ ∃ negative d, Reading.ofFloat x = .finite negative d := by
  have hfinite : x.isFinite = x.toModel.unpack.isFinite := rfl
  rw [hfinite, Reading.ofFloat_eq]
  cases x.toModel.unpack with
  | notANumber =>
    refine ⟨nofun, ?_⟩
    rintro ⟨negative, d, h⟩
    cases h
  | infinity sign =>
    refine ⟨nofun, ?_⟩
    rintro ⟨negative, d, h⟩
    cases h
  | zero sign => exact ⟨fun _ => ⟨_, _, rfl⟩, fun _ => rfl⟩
  | finite sign mantissa exponent hpos => exact ⟨fun _ => ⟨_, _, rfl⟩, fun _ => rfl⟩

theorem unsigned_iff : Unsigned x ↔ ∃ d, Reading.ofFloat x = .finite false d := by
  have hlt : x.toBits.toNat < 2 ^ 64 := x.toBits.toNat_lt
  have hsignBit : leadingBit * 2048 = 2 ^ 63 := rfl
  constructor
  · intro h
    obtain ⟨negative, d, hd⟩ := isFinite_iff.mp h.finite
    have hsign := sign_of_ofFloat hd
    have hclear := h.signBit
    have hpositive : negative = false := by
      rw [hsign, hsignBit, beq_eq_false_iff_ne]
      omega
    exact ⟨d, hpositive ▸ hd⟩
  · rintro ⟨d, hd⟩
    have hsign := sign_of_ofFloat hd
    rw [hsignBit, eq_comm, beq_eq_false_iff_ne] at hsign
    exact ⟨isFinite_iff.mpr ⟨false, d, hd⟩, by omega⟩

/-- A finite double without a sign is zero or a positive number. -/
theorem unpack_of_ofFloat (h : Reading.ofFloat x = .finite false d) :
    x.toModel.unpack = .zero .positive ∧ d = ⟨0, -1074⟩ ∨
      ∃ hpos, x.toModel.unpack = .finite .positive d.mantissa d.exponent hpos := by
  rw [Reading.ofFloat_eq] at h
  cases hunpack : x.toModel.unpack with
  | notANumber =>
    rw [hunpack] at h
    cases h
  | infinity sign =>
    rw [hunpack] at h
    cases h
  | zero sign =>
    rw [hunpack, Reading.ofUnpacked_zero] at h
    obtain ⟨hsign, rfl⟩ := Reading.finite.inj h
    cases sign with
    | negative => cases hsign
    | positive => exact .inl ⟨rfl, rfl⟩
  | finite sign mantissa exponent hpos =>
    rw [hunpack, Reading.ofUnpacked_finite] at h
    obtain ⟨hsign, rfl⟩ := Reading.finite.inj h
    cases sign with
    | negative => cases hsign
    | positive => exact .inr ⟨hpos, rfl⟩

theorem exact_eq_value (h : Reading.ofFloat x = .finite false d) : exact x = d.value := by
  unfold exact
  rcases unpack_of_ofFloat h with ⟨hunpack, rfl⟩ | ⟨hpos, hunpack⟩
  · simp [hunpack, Dyadic.value]
  · rw [hunpack]
    rfl

theorem Dyadic.value_nonneg (d : Dyadic) : 0 ≤ d.value := by
  unfold value
  positivity

/-! ## Order -/

/-- The exponent decides first, and the mantissa between equal exponents. -/
theorem Dyadic.Canonical.value_le (hd : d.Canonical) (hd' : d'.Canonical)
    (h : d.exponent < d'.exponent ∨ d.exponent = d'.exponent ∧ d.mantissa ≤ d'.mantissa) :
    d.value ≤ d'.value := by
  unfold value
  rcases h with hless | ⟨hsame, hle⟩
  · have hfilled : 2 ^ 52 ≤ d'.mantissa := by
      rcases hd'.filled with hfilled | hleast
      · exact hfilled
      · have := hd.least_le
        omega
    have hupper : (d.mantissa : ℚ) ≤ 2 ^ (53 : ℤ) := by
      exact_mod_cast hd.mantissa_lt.le
    have hlower : (2 : ℚ) ^ (52 : ℤ) ≤ d'.mantissa := by
      exact_mod_cast hfilled
    calc (d.mantissa : ℚ) * 2 ^ d.exponent
        ≤ 2 ^ (53 : ℤ) * 2 ^ d.exponent := by gcongr
      _ = 2 ^ (53 + d.exponent) := (zpow_add₀ two_ne_zero _ _).symm
      _ ≤ 2 ^ (52 + d'.exponent) := zpow_le_zpow_right₀ one_le_two (by omega)
      _ = 2 ^ (52 : ℤ) * 2 ^ d'.exponent := zpow_add₀ two_ne_zero _ _
      _ ≤ d'.mantissa * 2 ^ d'.exponent := by gcongr
  · rw [hsame]
    have hcast : (d.mantissa : ℚ) ≤ d'.mantissa := by exact_mod_cast hle
    gcongr

theorem exact_mono (hx : Unsigned x) (hy : Unsigned y) (hle : x ≤ y) : exact x ≤ exact y := by
  obtain ⟨d, hd⟩ := unsigned_iff.mp hx
  obtain ⟨d', hd'⟩ := unsigned_iff.mp hy
  rw [exact_eq_value hd, exact_eq_value hd']
  have hcompare : x.toModel.unpack.le y.toModel.unpack = true := of_decide_eq_true hle
  rcases unpack_of_ofFloat hd with ⟨-, rfl⟩ | ⟨hpos, hunpack⟩
  · have hzero : Dyadic.value ⟨0, -1074⟩ = 0 := by simp [Dyadic.value]
    rw [hzero]
    exact d'.value_nonneg
  · rcases unpack_of_ofFloat hd' with ⟨hunpack', -⟩ | ⟨hpos', hunpack'⟩
    · rw [hunpack, hunpack'] at hcompare
      cases hcompare
    · rw [hunpack, hunpack'] at hcompare
      -- Doubles are compared by exponent and mantissa, in this order.
      have hlex : ((compare d.exponent d'.exponent).then
          (compare d.mantissa d'.mantissa)).isLE = true := hcompare
      rw [Ordering.isLE_then_iff_or, Int.compare_eq_lt, Int.compare_eq_eq, Nat.isLE_compare] at hlex
      exact (canonical_of_ofFloat hd).value_le (canonical_of_ofFloat hd') hlex

end BenchRig.Decimal
