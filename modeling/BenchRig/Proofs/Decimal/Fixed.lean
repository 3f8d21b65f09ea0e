import BenchRig.Proofs.Decimal.Exact
import BenchRig.Proofs.Decimal.Padded
import BenchRig.Proofs.Decimal.Rounding

/-!
# Decimals with a fixed number of places

A double without a sign is written as the multiple of its last place that is nearest to its exact
value. The text is a plain decimal, and it determines the multiple.
-/

namespace BenchRig.Decimal

variable {places n w f : ℕ} {x : Float} {q r : ℚ} {cs : List Char}

/-- `cs` is a decimal of `q`: digits without a superfluous zero in front, a point, and `places`
digits behind it. -/
def IsFixed (places : ℕ) (cs : List Char) (q : ℚ) : Prop :=
  ∃ whole fraction w f, cs = whole ++ '.' :: fraction ∧ Denotes whole w ∧ Denotes fraction f ∧
    (whole.head? = some '0' → whole = ['0']) ∧ fraction.length = places ∧ q = w + f / 10 ^ places

/-! ## Texts of decimals -/

theorem Denotes.notMem {ds : List Char} {c : Char} (h : Denotes ds n) (hc : digitValue? c = none) :
    c ∉ ds := by
  intro hmem
  have := h.digits c hmem
  rw [hc] at this
  cases this

theorem IsFixed.notMem (h : IsFixed places cs q) {c : Char} (hc : digitValue? c = none)
    (hpoint : c ≠ '.') : c ∉ cs := by
  obtain ⟨whole, fraction, w, f, rfl, hwhole, hfraction, -⟩ := h
  simp [hwhole.notMem hc, hfraction.notMem hc, hpoint]

/-- The point splits a decimal in one way only. -/
theorem IsFixed.unique (hq : IsFixed places cs q) (hr : IsFixed places cs r) : q = r := by
  obtain ⟨whole, fraction, w, f, rfl, hwhole, hfraction, -, -, rfl⟩ := hq
  obtain ⟨whole', fraction', w', f', heq, hwhole', hfraction', -, -, rfl⟩ := hr
  have hpoint : digitValue? '.' = none := by decide
  obtain ⟨rfl, -, rfl⟩ := (List.append_cons_inj_of_notMem (hwhole.notMem hpoint)
    (hfraction.notMem hpoint)).mp heq
  rw [← hwhole.value, ← hwhole'.value, ← hfraction.value, ← hfraction'.value]

theorem denotes_numeral (n : ℕ) : Denotes (numeral n) n := by
  have hpadded : paddedNumeral 0 n = numeral n := by simp [paddedNumeral]
  exact hpadded ▸ denotes_paddedNumeral 0 n

theorem numeral_of_head? (h : (numeral n).head? = some '0') : numeral n = ['0'] := by
  rw [numeral_eq_map, List.head?_map, Option.map_eq_some_iff] at h
  obtain ⟨d, hd, hzero⟩ := h
  have hdigit : d < 10 := digitsOf_lt (List.mem_of_head? hd)
  have hvalue := Json.digitValue?_digit hdigit
  rw [hzero] at hvalue
  obtain rfl : 0 = d := Option.some.inj hvalue
  obtain ⟨e, he⟩ := List.length_eq_one_iff.mp (Json.length_digitsOf_of_head? hd)
  rw [he] at hd
  obtain rfl := Option.some.inj hd
  rw [numeral_eq_map, he]
  rfl

theorem isFixed_fixedNumeral (hplaces : 0 < places) (n : ℕ) :
    IsFixed places (fixedNumeral places n) (n / 10 ^ places) := by
  have hrest : n % 10 ^ places < 10 ^ places := Nat.mod_lt n (by positivity)
  refine ⟨numeral (n / 10 ^ places), paddedNumeral places (n % 10 ^ places), _, _, rfl,
    denotes_numeral _, denotes_paddedNumeral _ _, numeral_of_head?,
    length_paddedNumeral hplaces hrest, ?_⟩
  have hsplit : (n : ℚ) = 10 ^ places * (n / 10 ^ places : ℕ) + (n % 10 ^ places : ℕ) := by
    exact_mod_cast (Nat.div_add_mod n (10 ^ places)).symm
  field_simp
  linarith

/-! ## Doubles as decimals -/

theorem Dyadic.quotient_spec (d : Dyadic) :
    0 < d.quotient.2 ∧ d.value = d.quotient.1 / d.quotient.2 := by
  obtain ⟨mantissa, exponent⟩ := d
  cases exponent with
  | ofNat e =>
    refine ⟨Nat.one_pos, ?_⟩
    simp [value, quotient]
  | negSucc e =>
    refine ⟨Nat.pos_of_ne_zero (by simp [quotient]), ?_⟩
    simp [value, quotient, zpow_negSucc, div_eq_mul_inv]

theorem nearest_units (d : Dyadic) (places : ℕ) :
    Nearest (1 / 10 ^ places) d.value (d.units places) := by
  obtain ⟨hpos, hvalue⟩ := d.quotient_spec
  have hscaled : d.value = (d.quotient.1 * Nat.pow 10 places : ℕ) / d.quotient.2
      * (1 / 10 ^ places) := by
    have hten : ((Nat.pow 10 places : ℕ) : ℚ) = 10 ^ places := by simp
    rw [hvalue, Nat.cast_mul, hten]
    field_simp
  exact nearest_roundHalfEven hpos (by positivity) hscaled

theorem fixed_of_unsigned (hx : Unsigned x) (places : ℕ) :
    ∃ n, fixed places x = String.ofList (fixedNumeral places n) ∧
      Nearest (1 / 10 ^ places) (exact x) n := by
  obtain ⟨d, hd⟩ := unsigned_iff.mp hx
  refine ⟨d.units places, ?_, ?_⟩
  · rw [fixed, hd]
    rfl
  · rw [exact_eq_value hd]
    exact nearest_units d places

end BenchRig.Decimal
