import BenchRig.Proofs.Decimal.Exact
import BenchRig.Proofs.Decimal.Rounding
import Mathlib.Data.Nat.Log

/-!
# Doubles of whole numbers

A whole number that is converted to a double is rounded to 53 significant bits: to the nearest
multiple of the power of two that is left out, half to even. Dividing by a power of two then changes
the exponent only.
-/

namespace BenchRig.Decimal

open Float.Model (UnpackedFloat Format totalExponent)
open Float.Model.UnpackedFloat

/-! ## Shifting a mantissa -/

/-- What a shifted mantissa and its two further bits tell of a quotient: its whole part, and how the
rest of it compares with one half. -/
structure Remembers (em : ExtendedMantissa) (num den : ℕ) : Prop where
  mantissa : em.mantissa = num / den
  roundBit : em.roundBit = true ↔ den ≤ 2 * (num % den)
  stickyBit : em.stickyBit = true ↔ num % den ≠ 0 ∧ 2 * (num % den) ≠ den

variable {em : ExtendedMantissa} {num den : ℕ}

theorem remembers_start (m : ℕ) : Remembers (.ofMantissaAndAccuracy m .exact) m 1 := by
  constructor <;> simp [ExtendedMantissa.ofMantissaAndAccuracy, Nat.mod_one]

theorem Remembers.shiftRightOne (h : Remembers em num den) (hden : 0 < den) :
    Remembers em.shiftRightOne num (den * 2) := by
  -- The last bit of the whole part tells whether the new rest is at least one half, and the two bits
  -- so far tell whether there is anything else of it.
  have hwhole : num / (den * 2) = num / den / 2 := (Nat.div_div_eq_div_mul num den 2).symm
  have hrest : num % (den * 2) = num % den + den * (num / den % 2) := Nat.mod_mul
  have hlt : num % den < den := Nat.mod_lt num hden
  have hround := h.roundBit
  have hsticky := h.stickyBit
  have hbits : (em.roundBit || em.stickyBit) = true ↔ num % den ≠ 0 := by
    rw [Bool.or_eq_true, hround, hsticky]
    omega
  constructor
  · rw [hwhole, ← h.mantissa]
    rfl
  · have hbit : em.shiftRightOne.roundBit = true ↔ num / den % 2 ≠ 0 := by
      rw [← h.mantissa]
      exact bne_iff_ne
    rw [hbit, hrest]
    rcases Nat.mod_two_eq_zero_or_one (num / den) with hlast | hlast <;> rw [hlast] <;> omega
  · have hbit : em.shiftRightOne.stickyBit = true ↔ num % den ≠ 0 := hbits
    rw [hbit, hrest]
    rcases Nat.mod_two_eq_zero_or_one (num / den) with hlast | hlast <;> rw [hlast] <;> omega

theorem remembers_shiftRight (m k : ℕ) :
    Remembers (ExtendedMantissa.ofMantissaAndAccuracy m .exact >>> k) m (2 ^ k) := by
  change Remembers (k.repeat ExtendedMantissa.shiftRightOne _) m (2 ^ k)
  induction k with
  | zero => exact remembers_start m
  | succ k ih => exact ih.shiftRightOne (by positivity)

theorem Remembers.roundedMantissa (h : Remembers em num den) :
    em.roundedMantissa = roundHalfEven num den := by
  obtain ⟨mantissa, roundBit, stickyBit⟩ := em
  obtain ⟨hmantissa, hround, hsticky⟩ := h
  dsimp only at hmantissa hround hsticky
  subst hmantissa
  rw [roundHalfEven_eq]
  cases roundBit with
  | false =>
    have hless : ¬den ≤ 2 * (num % den) := mt hround.mpr nofun
    rw [if_pos (by omega)]
    cases stickyBit <;> rfl
  | true =>
    have hhalf : den ≤ 2 * (num % den) := hround.mp rfl
    cases stickyBit with
    | false =>
      have heven : (ExtendedMantissa.mk (num / den) true false).roundedMantissa =
          num / den + num / den % 2 := rfl
      have htie : ¬(num % den ≠ 0 ∧ 2 * (num % den) ≠ den) := mt hsticky.mpr nofun
      rw [heven]
      split_ifs <;> omega
    | true =>
      have hmore := hsticky.mp rfl
      rw [if_neg (by omega), if_pos (by omega)]
      rfl

/-! ## Rounding to 53 bits -/

/-- The multiple of the power of two that leaves 53 bits which is nearest to `m`, half to even. -/
def rounded (m : ℕ) : ℕ := roundHalfEven m (2 ^ (m.log2 - 52)) * 2 ^ (m.log2 - 52)

variable {m n : ℕ} {e : ℤ}

theorem roundHalfEven_mul (n : ℕ) (hden : 0 < den) : roundHalfEven (n * den) den = n := by
  simp [roundHalfEven, hden]

theorem roundHalfEven_mono (hden : 0 < den) (hle : m ≤ n) :
    roundHalfEven m den ≤ roundHalfEven n den := by
  have hm : Nearest 1 (m / den * 1) (roundHalfEven m den) :=
    nearest_roundHalfEven hden one_pos rfl
  have hn : Nearest 1 (n / den * 1) (roundHalfEven n den) :=
    nearest_roundHalfEven hden one_pos rfl
  refine hm.mono one_pos hn ?_
  have hcast : (m : ℚ) ≤ n := by exact_mod_cast hle
  gcongr

theorem rounded_of_dvd (h : 2 ^ (m.log2 - 52) ∣ m) : rounded m = m := by
  obtain ⟨n, hn⟩ := h
  rw [mul_comm] at hn
  rw [rounded]
  conv_lhs => enter [1, 1]; rw [hn]
  rw [roundHalfEven_mul n (by positivity), ← hn]

/-- Powers of two are left as they are, so what lies between two of them stays there. -/
theorem rounded_bounds (hm : m ≠ 0) : 2 ^ m.log2 ≤ rounded m ∧ rounded m ≤ 2 ^ (m.log2 + 1) := by
  have hlow : 2 ^ m.log2 ≤ m := Nat.log2_self_le hm
  have hhigh : m ≤ 2 ^ (m.log2 + 1) := (Nat.lt_log2_self).le
  set k := m.log2 - 52 with hk
  have hden : 0 < 2 ^ k := by positivity
  have hpower : ∀ j, k ≤ j → roundHalfEven (2 ^ j) (2 ^ k) * 2 ^ k = 2 ^ j := by
    intro j hj
    obtain ⟨i, rfl⟩ := Nat.exists_eq_add_of_le' hj
    rw [pow_add, roundHalfEven_mul _ hden]
  rw [rounded, ← hk, ← hpower m.log2 (by omega), ← hpower (m.log2 + 1) (by omega)]
  exact ⟨Nat.mul_le_mul_right _ (roundHalfEven_mono hden hlow),
    Nat.mul_le_mul_right _ (roundHalfEven_mono hden hhigh)⟩

theorem rounded_mono (hle : m ≤ n) : rounded m ≤ rounded n := by
  by_cases hm : m = 0
  · subst hm
    exact Nat.zero_le _
  · have hn : n ≠ 0 := by omega
    have hlog : m.log2 ≤ n.log2 := by
      rw [Nat.log2_eq_log_two, Nat.log2_eq_log_two]
      exact Nat.log_mono_right hle
    rcases hlog.eq_or_lt with hsame | hless
    · rw [rounded, rounded, hsame]
      exact Nat.mul_le_mul_right _ (roundHalfEven_mono (by positivity) hle)
    · calc rounded m ≤ 2 ^ (m.log2 + 1) := (rounded_bounds hm).2
        _ ≤ 2 ^ n.log2 := Nat.pow_le_pow_right (by decide) hless
        _ ≤ rounded n := (rounded_bounds hn).1

theorem rounded_error (m : ℕ) : 2 * |(m : ℤ) - rounded m| ≤ 2 ^ (m.log2 - 52) := by
  have hden : 0 < 2 ^ (m.log2 - 52) := by positivity
  have h := (roundHalfEven_error m hden).1
  rw [rounded]
  push_cast at h ⊢
  exact h

theorem log2_shiftLeft (hn : n ≠ 0) (s : ℕ) : (n <<< s).log2 = n.log2 + s := by
  have hpow : 0 < 2 ^ s := by positivity
  have hne : n <<< s ≠ 0 := by
    rw [Nat.shiftLeft_eq]
    positivity
  rw [Nat.log2_eq_iff hne, Nat.shiftLeft_eq, add_right_comm, pow_add, pow_add]
  exact ⟨Nat.mul_le_mul_right _ (Nat.log2_self_le hn),
    Nat.mul_lt_mul_of_pos_right Nat.lt_log2_self hpow⟩

theorem roundHalfEven_scale (num den : ℕ) {c : ℕ} (hc : 0 < c) :
    roundHalfEven (num * c) (den * c) = roundHalfEven num den := by
  simp only [roundHalfEven, Nat.mul_div_mul_right _ _ hc, Nat.mul_mod_mul_right, ← mul_assoc,
    Nat.mul_lt_mul_right hc]

theorem rounded_shiftLeft (n s : ℕ) : rounded (n <<< s) = rounded n * 2 ^ s := by
  by_cases hn : n = 0
  · subst hn
    simp [rounded, roundHalfEven]
  have hpow : 0 < 2 ^ s := by positivity
  by_cases hfilled : 52 ≤ n.log2
  · have hshift : n.log2 + s - 52 = n.log2 - 52 + s := by omega
    rw [rounded, log2_shiftLeft hn, hshift, Nat.shiftLeft_eq, pow_add,
      roundHalfEven_scale _ _ hpow, ← mul_assoc, rounded]
  · have hself : rounded n = n := by
      refine rounded_of_dvd ?_
      rw [show n.log2 - 52 = 0 by omega]
      exact one_dvd n
    rw [hself, ← Nat.shiftLeft_eq]
    refine rounded_of_dvd ?_
    rw [log2_shiftLeft hn, Nat.shiftLeft_eq]
    exact dvd_mul_of_dvd_right (pow_dvd_pow 2 (by omega)) n

/-- Up to `2 ^ 53` every whole number is a double. -/
theorem rounded_of_le (hm : m ≤ 2 ^ 53) : rounded m = m := by
  rcases hm.lt_or_eq with hless | rfl
  · by_cases hzero : m = 0
    · subst hzero
      rfl
    · have hlog := (Nat.log2_lt hzero).mpr hless
      refine rounded_of_dvd ?_
      rw [show m.log2 - 52 = 0 by omega]
      exact one_dvd m
  · decide +kernel

theorem rounded_error_of_lt (hm : m < 2 ^ 64) : |(m : ℚ) - rounded m| ≤ 2 ^ 10 := by
  have hlog : m.log2 - 52 ≤ 11 := by
    by_cases hzero : m = 0
    · subst hzero
      simp
    · have := (Nat.log2_lt hzero).mpr hm
      omega
  have hpow : (2 : ℤ) ^ (m.log2 - 52) ≤ 2 ^ 11 := pow_le_pow_right₀ (by decide) hlog
  have herror := (rounded_error m).trans hpow
  have hint : |(m : ℤ) - rounded m| ≤ 2 ^ 10 := by omega
  exact_mod_cast hint

theorem targetExponent_eq (m : ℕ) (e : ℤ) :
    Format.binary64.targetExponent (totalExponent m e) = max (m.log2 + e - 52) (-1074) := by
  have hleast : Format.binary64.minExponent = -1074 := rfl
  have hbits : (Format.binary64.mantissaBits : ℤ) = 53 := rfl
  rw [Format.targetExponent, totalExponent, hleast, hbits]
  omega

theorem shiftToTargetExponent_eq (hfilled : 52 ≤ m.log2) (hleast : -1074 ≤ e) :
    shiftToTargetExponent Format.binary64 m e .exact =
      (ExtendedMantissa.ofMantissaAndAccuracy m .exact >>> (m.log2 - 52),
        e + (m.log2 - 52 : ℕ)) := by
  have hshift : (max (m.log2 + e - 52) (-1074) - e).toNat = m.log2 - 52 := by omega
  rw [shiftToTargetExponent, targetExponent_eq, shiftToExponent, hshift]

/-- A mantissa that carried out of its 53 bits is a power of two, so shifting it once more is exact. -/
theorem shiftToTargetExponent_carry (hlow : 2 ^ 52 ≤ m) (hhigh : m ≤ 2 ^ 53) (hleast : -1074 ≤ e) :
    ∃ em e', shiftToTargetExponent Format.binary64 m e .exact = (em, e') ∧
      2 ^ 52 ≤ em.mantissa ∧ em.mantissa < 2 ^ 53 ∧ e ≤ e' ∧ e' ≤ e + 1 ∧
      (em.mantissa : ℚ) * 2 ^ e' = m * 2 ^ e := by
  have hlog : 52 ≤ m.log2 := (Nat.le_log2 (by omega)).mpr hlow
  refine ⟨_, _, shiftToTargetExponent_eq hlog hleast, ?_⟩
  rw [(remembers_shiftRight m _).mantissa]
  rcases hhigh.lt_or_eq with hless | rfl
  · have hsame : m.log2 - 52 = 0 := by
      have := (Nat.log2_lt (by omega)).mpr hless
      omega
    rw [hsame, pow_zero, Nat.div_one]
    exact ⟨hlow, hless, by omega, by omega, by simp⟩
  · have hcarry : (2 ^ 53 : ℕ).log2 - 52 = 1 := by rw [Nat.log2_two_pow]
    have hdouble : (2 : ℚ) ^ (e + 1) = 2 ^ e * 2 := zpow_add_one₀ two_ne_zero e
    rw [hcarry]
    refine ⟨by decide, by decide, by omega, by omega, ?_⟩
    push_cast
    rw [hdouble]
    ring

/-- Rounding keeps the leading 53 bits. -/
theorem roundWithAccuracy_eq (hfilled : 52 ≤ m.log2) (hleast : -1074 ≤ e) :
    ∃ m' e' hpos, roundWithAccuracy Format.binary64 .positive m e .exact =
        .finite .positive m' e' hpos ∧
      2 ^ 52 ≤ m' ∧ m' < 2 ^ 53 ∧ -1074 ≤ e' ∧ e' ≤ e + m.log2 - 51 ∧
      (m' : ℚ) * 2 ^ e' = rounded m * 2 ^ e := by
  set k := m.log2 - 52 with hk
  have hm : m ≠ 0 := by
    rintro rfl
    simp at hfilled
  have hbounds : 2 ^ 52 ≤ roundHalfEven m (2 ^ k) ∧ roundHalfEven m (2 ^ k) ≤ 2 ^ 53 := by
    obtain ⟨hlow, hhigh⟩ := rounded_bounds hm
    rw [rounded, ← hk] at hlow hhigh
    rw [show m.log2 = 52 + k by omega, pow_add] at hlow
    rw [show m.log2 + 1 = 53 + k by omega, pow_add] at hhigh
    exact ⟨Nat.le_of_mul_le_mul_right hlow (by positivity),
      Nat.le_of_mul_le_mul_right hhigh (by positivity)⟩
  obtain ⟨em, e', hshift, hlow, hhigh, hle, hge, hvalue⟩ :=
    shiftToTargetExponent_carry hbounds.1 hbounds.2 (show -1074 ≤ e + k by omega)
  have hpos : 0 < em.mantissa := by omega
  refine ⟨em.mantissa, e', hpos, ?_, hlow, hhigh, by omega, by omega, ?_⟩
  · rw [roundWithAccuracy, shiftToTargetExponent_eq hfilled hleast]
    dsimp only
    rw [(remembers_shiftRight m k).roundedMantissa, hshift]
    exact dif_neg hpos.ne'
  · rw [hvalue, rounded, ← hk, zpow_add₀ two_ne_zero, zpow_natCast]
    push_cast
    ring

/-! ## Packing -/

theorem toNat_packComponents (exponent : BitVec 11) (mantissa : BitVec 52) :
    (packComponents Format.binary64 .positive exponent mantissa).toNat =
      exponent.toNat * leadingBit + mantissa.toNat := by
  have hsign : (0#1 ++ exponent).toNat = exponent.toNat := by
    rw [BitVec.toNat_append]
    exact Nat.zero_or _
  rw [packComponents, BitVec.toNat_append, ← Nat.shiftLeft_add_eq_or_of_lt mantissa.isLt,
    Nat.shiftLeft_eq]
  exact congrArg (· * 2 ^ 52 + mantissa.toNat) hsign

/-- A mantissa of 53 bits and an exponent in range are read back from the bits of the double. -/
theorem ofFloat_pack {hpos : 0 < m} (hlow : 2 ^ 52 ≤ m) (hhigh : m < 2 ^ 53) (hleast : -1074 ≤ e)
    (hgreatest : e ≤ 971) :
    Reading.ofFloat (.ofModel (.pack (.finite .positive m e hpos))) = .finite false ⟨m, e⟩ := by
  have hlog : m.log2 + 1 = Format.binary64.mantissaBits := by
    have hge : 52 ≤ m.log2 := (Nat.le_log2 hpos.ne').mpr hlow
    have hlt : m.log2 < 53 := (Nat.log2_lt hpos.ne').mpr hhigh
    have hbits : Format.binary64.mantissaBits = 53 := rfl
    omega
  have hbias : (e + Format.binary64.exponentBias + Format.binary64.mantissaBitsWithoutImplicit).toNat
      = (e + 1075).toNat := by
    have : (Format.binary64.exponentBias : ℤ) = 1023 := rfl
    have : (Format.binary64.mantissaBitsWithoutImplicit : ℤ) = 52 := rfl
    omega
  have hbits : (Float.ofModel (.pack (.finite .positive m e hpos))).toBits.toNat =
      (e + 1075).toNat * leadingBit + (m - leadingBit) := by
    change (UnpackedFloat.pack Format.binary64 (.finite .positive m e hpos)).toNat = _
    unfold UnpackedFloat.pack
    dsimp only
    rw [hbias, if_neg (by omega), if_pos hlog, toNat_packComponents,
      BitVec.toNat_ofNat, BitVec.toNat_ofNat, Nat.mod_eq_of_lt (by omega)]
    rw [leadingBit]
    omega
  have hsign : ((e + 1075).toNat * leadingBit + (m - leadingBit)) / (leadingBit * 2048) = 0 := by
    rw [leadingBit]
    omega
  have hexponent : ((e + 1075).toNat * leadingBit + (m - leadingBit)) / leadingBit % 2048 =
      (e + 1075).toNat := by
    rw [leadingBit]
    omega
  have hfraction : ((e + 1075).toNat * leadingBit + (m - leadingBit)) % leadingBit =
      m - leadingBit := by
    rw [leadingBit]
    omega
  have hmantissa : leadingBit + (m - leadingBit) = m := by
    rw [leadingBit]
    omega
  have hexact : Int.ofNat (e + 1075).toNat - 1075 = e := by
    rw [Int.ofNat_eq_natCast]
    omega
  rw [Reading.ofFloat, Reading.ofBits, hbits, hsign, hexponent, hfraction,
    if_neg (by omega), if_neg (by omega), hmantissa, hexact]
  rfl

theorem unsigned_pack_round (hfilled : 52 ≤ m.log2) (hleast : -1074 ≤ e)
    (hgreatest : e + m.log2 ≤ 1022) {x : Float}
    (hx : x = .ofModel (.pack (roundWithAccuracy Format.binary64 .positive m e .exact))) :
    Unsigned x ∧ exact x = rounded m * 2 ^ e := by
  obtain ⟨m', e', hpos, hround, hlow, hhigh, hle, hge, hvalue⟩ :=
    roundWithAccuracy_eq hfilled hleast
  have hread : Reading.ofFloat x = .finite false ⟨m', e'⟩ := by
    rw [hx, hround]
    exact ofFloat_pack hlow hhigh hle (by omega)
  exact ⟨unsigned_iff.mpr ⟨_, hread⟩, (exact_eq_value hread).trans hvalue⟩

/-! ## Whole numbers and their quotients by powers of two -/

/-- A whole number of 64 bits becomes the nearest double. -/
theorem exact_toFloat (b : UInt64) : Unsigned b.toFloat ∧ exact b.toFloat = rounded b.toNat := by
  by_cases hb : b = 0
  · subst hb
    exact ⟨⟨by decide, by decide⟩, rfl⟩
  have hn : b.toNat ≠ 0 := fun h => hb (UInt64.toNat_inj.mp h)
  have hlt : b.toNat.log2 < 64 := (Nat.log2_lt hn).mpr b.toNat_lt
  set n := b.toNat with hbn
  -- A short number is shifted up to 53 bits first, a longer one is not shifted.
  set s := 52 - n.log2 with hs
  have hround : UnpackedFloat.ofUInt64 Format.binary64 b =
      roundWithAccuracy Format.binary64 .positive (n <<< s) (0 - s) .exact := by
    have hshift : (0 - max ((n.log2 : ℤ) + 0 - 52) (-1074)).toNat = s := by omega
    rw [UnpackedFloat.ofUInt64, UnpackedFloat.ofNat, ofInt, UnpackedFloat.normalize, ← hbn,
      Int.compare_eq_gt.mpr (by omega)]
    dsimp only
    rw [UnpackedFloat.round, Int.toNat_natCast, targetExponent_eq, decreaseExponent, hshift]
  have hpacked : b.toFloat = .ofModel (.pack (UnpackedFloat.ofUInt64 Format.binary64 b)) := rfl
  rw [hround] at hpacked
  have hlog := log2_shiftLeft hn s
  obtain ⟨hunsigned, hvalue⟩ := unsigned_pack_round (by omega) (by omega) (by omega) hpacked
  refine ⟨hunsigned, ?_⟩
  rw [hvalue, rounded_shiftLeft, zero_sub, zpow_neg, zpow_natCast]
  push_cast
  field_simp

/-- A double that is not too small fills its 53 bits, and its exponent can still be lowered. -/
theorem filled_of_large {d : Dyadic} (hd : d.Canonical) (hlarge : 2 ^ (-1000 : ℤ) ≤ d.value) :
    d.mantissa.log2 = 52 ∧ -1053 ≤ d.exponent := by
  have hexponent : -1053 ≤ d.exponent := by
    by_contra hsmall
    have hmantissa : (d.mantissa : ℚ) < 2 ^ (53 : ℤ) := by exact_mod_cast hd.mantissa_lt
    have hvalue : d.value < 2 ^ (-1000 : ℤ) :=
      calc d.value = d.mantissa * 2 ^ d.exponent := rfl
        _ < 2 ^ (53 : ℤ) * 2 ^ d.exponent := by gcongr
        _ = 2 ^ (53 + d.exponent) := (zpow_add₀ two_ne_zero _ _).symm
        _ ≤ 2 ^ (-1000 : ℤ) := zpow_le_zpow_right₀ one_le_two (by omega)
    linarith
  have hlow : 2 ^ 52 ≤ d.mantissa := hd.filled.resolve_right (by omega)
  exact ⟨(Nat.log2_eq_iff (by omega)).mpr ⟨hlow, hd.mantissa_lt⟩, hexponent⟩

theorem divCore_1024 (hlog : m.log2 = 52) (hleast : -1053 ≤ e) :
    divCore Format.binary64 m e (2 ^ 52) (-42) = (m <<< 1, e - 11, .exact) := by
  have htarget : min (e - -42) (Format.binary64.targetExponent
      (totalExponent m e - totalExponent (2 ^ 52) (-42))) = e - 11 := by
    have hleast : Format.binary64.minExponent = -1074 := rfl
    have hbits : (Format.binary64.mantissaBits : ℤ) = 53 := rfl
    rw [Format.targetExponent, totalExponent, totalExponent, hlog, Nat.log2_two_pow, hleast, hbits]
    omega
  have hshift : (e - -42 - (e - 11)).toNat = 53 := by omega
  have hquotient : m <<< 53 = m <<< 1 * 2 ^ 52 := by
    rw [Nat.shiftLeft_eq, Nat.shiftLeft_eq, mul_assoc, ← pow_add]
  rw [divCore, htarget, hshift, hquotient, Nat.mul_div_cancel _ (by decide), Nat.mul_mod_left]
  rfl

/-- Dividing by 1024 changes the exponent of a double only, unless that is too small already. -/
theorem exact_div_1024 {x : Float} (hx : Unsigned x) (hlarge : 2 ^ (-1000 : ℤ) ≤ exact x) :
    Unsigned (x / 1024) ∧ exact (x / 1024) = exact x / 1024 := by
  obtain ⟨d, hd⟩ := unsigned_iff.mp hx
  have hcanonical := canonical_of_ofFloat hd
  rw [exact_eq_value hd] at hlarge ⊢
  obtain ⟨hlog, hleast⟩ := filled_of_large hcanonical hlarge
  have hgreatest := hcanonical.le_greatest
  have hm : d.mantissa ≠ 0 := by
    intro hzero
    rw [hzero] at hlog
    cases hlog
  obtain ⟨-, rfl⟩ | ⟨hpos, hunpack⟩ := unpack_of_ofFloat hd
  · exact absurd rfl hm
  have hdivisor : (1024 : Float).toModel.unpack = .finite .positive (2 ^ 52) (-42) (by decide) := rfl
  have hpacked : x / 1024 = .ofModel (.pack (roundWithAccuracy Format.binary64 .positive
      (d.mantissa <<< 1) (d.exponent - 11) .exact)) := by
    have hdiv : x / 1024 = .ofModel (.pack (UnpackedFloat.div Format.binary64
        x.toModel.unpack (1024 : Float).toModel.unpack)) := rfl
    rw [hdiv, hunpack, hdivisor]
    unfold UnpackedFloat.div
    dsimp only
    rw [divCore_1024 hlog hleast]
    rfl
  have hdouble := log2_shiftLeft hm 1
  obtain ⟨hunsigned, hvalue⟩ := unsigned_pack_round (by omega) (by omega) (by omega) hpacked
  refine ⟨hunsigned, ?_⟩
  have hself : rounded d.mantissa = d.mantissa := by
    refine rounded_of_dvd ?_
    rw [hlog]
    exact one_dvd _
  have hscale : (2 : ℚ) ^ (d.exponent - 11) = 2 ^ d.exponent / 2048 := by
    rw [zpow_sub₀ two_ne_zero]
    norm_num
  rw [hvalue, rounded_shiftLeft, hself, hscale, Dyadic.value]
  push_cast
  ring

end BenchRig.Decimal
