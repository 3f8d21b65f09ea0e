import BenchRig.Micro.Overflow
import Mathlib.Algebra.BigOperators.Intervals
import Mathlib.Data.Nat.Basic

/-!
# The sum of last digits

Counting and its closed form are compared with the sum they stand for. Whatever becomes of numbers
that do not fit, both end with the word of this sum, if there is one.
-/

namespace BenchRig.Micro

/-! ## The sum -/

/-- The sum of the last digits of the numbers from one to `n`. -/
def lastDigitSum (n : Nat) : Nat := ∑ i ∈ Finset.Icc 1 n, i % 10

theorem lastDigitSum_succ (n : Nat) : lastDigitSum (n + 1) = lastDigitSum n + (n + 1) % 10 :=
  Finset.sum_Icc_succ_top (Nat.le_add_left 1 n) _

theorem lastDigitSum_mono {m n : Nat} (h : m ≤ n) : lastDigitSum m ≤ lastDigitSum n := by
  induction h with
  | refl => exact Nat.le_refl _
  | step _ ih =>
    rw [lastDigitSum_succ]
    omega

/-- Each full ten adds 45, and the rest a triangle number. -/
theorem lastDigitSum_eq (n : Nat) :
    lastDigitSum n = n / 10 * 45 + n % 10 * (n % 10 + 1) / 2 := by
  induction n with
  | zero => rfl
  | succ n ih =>
    rw [lastDigitSum_succ, ih]
    by_cases hlast : n % 10 = 9
    · -- A ten becomes full.
      have hten : (n + 1) / 10 = n / 10 + 1 := by omega
      have hrest : (n + 1) % 10 = 0 := by omega
      rw [hten, hrest, hlast]
      omega
    · have hten : (n + 1) / 10 = n / 10 := by omega
      have hrest : (n + 1) % 10 = n % 10 + 1 := by omega
      have htriangle : (n % 10 + 1) * (n % 10 + 1 + 1) / 2 =
          n % 10 * (n % 10 + 1) / 2 + (n % 10 + 1) := by
        have := Nat.triangle_succ (n % 10 + 1)
        rwa [Nat.add_sub_cancel, Nat.add_sub_cancel, Nat.mul_comm (n % 10 + 1 + 1),
          Nat.mul_comm (n % 10 + 1) (n % 10)] at this
      rw [hten, hrest, htriangle]
      omega

theorem lastDigitSum_greatest : lastDigitSum 4099276460824344805 = 2 ^ 64 - 1 := by
  rw [lastDigitSum_eq]
  rfl

/-- The sums that fit into a word are those up to the number whose sum is the greatest word. -/
theorem lastDigitSum_lt_iff {n : Nat} :
    lastDigitSum n < 2 ^ 64 ↔ n ≤ 4099276460824344805 := by
  constructor
  · intro h
    by_contra hlarge
    have hnext : lastDigitSum 4099276460824344806 = 2 ^ 64 - 1 + 6 := by
      rw [lastDigitSum_succ, lastDigitSum_greatest]
    have hmono := lastDigitSum_mono (Nat.succ_le_of_lt (Nat.not_le.mp hlarge))
    rw [hnext] at hmono
    omega
  · intro h
    have hmono := lastDigitSum_mono h
    rw [lastDigitSum_greatest] at hmono
    omega

/-! ## Words of numbers -/

namespace Overflow

variable {o : Overflow} {a b : Nat} {s t : UInt64}

theorem word_stop (n : Nat) :
    stop.word n = if n < 2 ^ 64 then some (UInt64.ofNat n) else none := rfl

theorem word_of_lt (o : Overflow) (h : a < 2 ^ 64) : o.word a = some (UInt64.ofNat a) := by
  cases o with
  | wrap => rfl
  | stop => rw [word_stop, if_pos h]

theorem word_toNat (o : Overflow) (s : UInt64) : o.word s.toNat = some s := by
  rw [word_of_lt o s.toNat_lt, UInt64.ofNat_toNat]

theorem ofNat_of_word (h : o.word a = some s) : UInt64.ofNat a = s := by
  cases o with
  | wrap => exact Option.some.inj h
  | stop =>
    rw [word_stop] at h
    split_ifs at h
    exact Option.some.inj h

theorem toNat_of_word (h : stop.word a = some s) : s.toNat = a := by
  have hs := ofNat_of_word h
  rw [word_stop] at h
  split_ifs at h with hfits
  rw [← hs, UInt64.toNat_ofNat_of_lt' hfits]

theorem isSome_word_stop : (stop.word a).isSome ↔ a < 2 ^ 64 := by
  by_cases h : a < 2 ^ 64
  · rw [word_of_lt stop h]
    exact ⟨fun _ => h, fun _ => rfl⟩
  · rw [word_stop, if_neg h]
    exact ⟨nofun, fun hfits => absurd hfits h⟩

/-- Where a program stops at a number, it stops at all greater ones. -/
theorem word_eq_none_of_le (h : o.word a = none) (hle : a ≤ b) : o.word b = none := by
  cases o with
  | wrap => cases h
  | stop =>
    have hover : ¬ a < 2 ^ 64 := by
      rw [← isSome_word_stop, h]
      simp
    rw [word_stop, if_neg (by omega)]

/-- Words stand for their numbers in sums and in products. -/
theorem add_eq_word (hs : o.word a = some s) (ht : o.word b = some t) :
    o.add s t = o.word (a + b) := by
  cases o with
  | wrap =>
    rw [add, word, word, UInt64.ofNat_add, UInt64.ofNat_add, UInt64.ofNat_toNat,
      UInt64.ofNat_toNat, ofNat_of_word hs, ofNat_of_word ht]
  | stop => rw [add, toNat_of_word hs, toNat_of_word ht]

theorem mul_eq_word (hs : o.word a = some s) (ht : o.word b = some t) :
    o.mul s t = o.word (a * b) := by
  cases o with
  | wrap =>
    rw [mul, word, word, UInt64.ofNat_mul, UInt64.ofNat_mul, UInt64.ofNat_toNat,
      UInt64.ofNat_toNat, ofNat_of_word hs, ofNat_of_word ht]
  | stop => rw [mul, toNat_of_word hs, toNat_of_word ht]

/-- A quotient always fits. -/
theorem word_div (h : a < 2 ^ 64) (t : UInt64) :
    o.word (a / t.toNat) = some (UInt64.ofNat a / t) := by
  have hnat : (UInt64.ofNat a / t).toNat = a / t.toNat := by
    rw [UInt64.toNat_div, UInt64.toNat_ofNat_of_lt' h]
  rw [← hnat, word_toNat]

/-! ## Counting -/

/-- One round: the last digit of the next number is added, if the program goes on. -/
theorem add_lastDigit {k : Nat} (hs : o.word (lastDigitSum k) = some s) (hk : k + 1 < 2 ^ 64) :
    o.add s (UInt64.ofNat (k + 1) % 10) = o.word (lastDigitSum (k + 1)) := by
  have hdigit : (UInt64.ofNat (k + 1) % 10).toNat = (k + 1) % 10 := by
    rw [UInt64.toNat_mod, UInt64.toNat_ofNat_of_lt' hk]
    rfl
  have hword : o.word ((k + 1) % 10) = some (UInt64.ofNat (k + 1) % 10) := by
    rw [← hdigit, word_toNat]
  rw [add_eq_word hs hword, lastDigitSum_succ]

/-- From the sum up to `k`, further rounds lead to the sum up to the last number. -/
theorem addLastDigits_eq_word {k : Nat} (rounds : Nat) (hs : o.word (lastDigitSum k) = some s)
    (hfits : k + rounds < 2 ^ 64) :
    o.addLastDigits rounds (UInt64.ofNat (k + 1)) s = o.word (lastDigitSum (k + rounds)) := by
  induction rounds generalizing k s with
  | zero => exact hs.symm
  | succ rounds ih =>
    have hround := add_lastDigit hs (show k + 1 < 2 ^ 64 by omega)
    have hnext : UInt64.ofNat (k + 1) + 1 = UInt64.ofNat (k + 1 + 1) :=
      (UInt64.ofNat_add (k + 1) 1).symm
    have hlast : k + (rounds + 1) = k + 1 + rounds := by omega
    rw [addLastDigits, hround, hnext, hlast]
    cases hword : o.word (lastDigitSum (k + 1)) with
    | none =>
      -- Sums only grow, so the last one does not fit either.
      have hmono := lastDigitSum_mono (Nat.le_add_right (k + 1) rounds)
      rw [word_eq_none_of_le hword hmono]
      rfl
    | some s' => exact ih hword (by omega)

theorem countModTen_eq_word (o : Overflow) (n : UInt64) :
    o.countModTen n = o.word (lastDigitSum n.toNat) := by
  have hfits : 0 + n.toNat < 2 ^ 64 := by
    rw [Nat.zero_add]
    exact n.toNat_lt
  have hcount := addLastDigits_eq_word n.toNat (word_toNat o 0) hfits
  rw [Nat.zero_add n.toNat] at hcount
  exact hcount

/-- Only the first product and the last sum of the closed form may not fit. -/
theorem countModTenClosed_eq_word (o : Overflow) (n : UInt64) :
    o.countModTenClosed n = o.word (lastDigitSum n.toNat) := by
  set q := n.toNat / 10 with hq
  set r := n.toNat % 10 with hr
  have hsmall : r < 10 := Nat.mod_lt _ (by decide)
  have hproduct : r * (r + 1) ≤ 9 * 10 := Nat.mul_le_mul (by omega) (by omega)
  have hten : o.word q = some (n / 10) := word_toNat o (n / 10)
  have hrest : o.word r = some (n % 10) := word_toNat o (n % 10)
  have hone : o.word 1 = some 1 := word_toNat o 1
  have htens : o.mul (n / 10) 45 = o.word (q * 45) := mul_eq_word hten (word_toNat o 45)
  have hnext : o.add (n % 10) 1 = some (UInt64.ofNat (r + 1)) := by
    rw [add_eq_word hrest hone, word_of_lt o (by omega)]
  have htriangle : o.mul (n % 10) (UInt64.ofNat (r + 1)) = some (UInt64.ofNat (r * (r + 1))) := by
    rw [mul_eq_word hrest (word_of_lt o (by omega)), word_of_lt o (by omega)]
  have hhalf : o.word (r * (r + 1) / 2) = some (UInt64.ofNat (r * (r + 1)) / 2) :=
    word_div (by omega) 2
  have hsum : lastDigitSum n.toNat = q * 45 + r * (r + 1) / 2 := lastDigitSum_eq n.toNat
  unfold countModTenClosed
  rw [htens, hsum]
  cases hword : o.word (q * 45) with
  | none =>
    rw [word_eq_none_of_le hword (Nat.le_add_right _ _)]
    rfl
  | some tens =>
    rw [← add_eq_word hword hhalf]
    simp only [Option.bind_eq_bind, Option.bind_some, hnext, htriangle]

/-! ## Going on with what fits -/

theorem add_wrap (s t : UInt64) : wrap.add s t = some (s + t) := by
  rw [add, word, UInt64.ofNat_add, UInt64.ofNat_toNat, UInt64.ofNat_toNat]

theorem mul_wrap (s t : UInt64) : wrap.mul s t = some (s * t) := by
  rw [mul, word, UInt64.ofNat_mul, UInt64.ofNat_toNat, UInt64.ofNat_toNat]

theorem addLastDigits_wrap (rounds : Nat) (i s : UInt64) :
    wrap.addLastDigits rounds i s = some (Micro.addLastDigits rounds i s) := by
  induction rounds generalizing i s with
  | zero => rfl
  | succ rounds ih =>
    rw [addLastDigits, add_wrap, Micro.addLastDigits]
    exact ih (i + 1) (s + i % 10)

theorem countModTen_wrap (n : UInt64) : wrap.countModTen n = some (Micro.countModTen n) :=
  addLastDigits_wrap n.toNat 1 0

theorem countModTenClosed_wrap (n : UInt64) :
    wrap.countModTenClosed n = some (Micro.countModTenClosed n) := by
  simp only [countModTenClosed, add_wrap, mul_wrap, Option.bind_eq_bind, Option.bind_some,
    Micro.countModTenClosed]

end Overflow

theorem countModTen_eq_closed (n : UInt64) : countModTen n = countModTenClosed n := by
  have hcount := Overflow.countModTen_eq_word .wrap n
  have hclosed := Overflow.countModTenClosed_eq_word .wrap n
  rw [Overflow.countModTen_wrap] at hcount
  rw [Overflow.countModTenClosed_wrap, ← hcount] at hclosed
  exact (Option.some.inj hclosed).symm

theorem countModTen_eq_ofNat (n : UInt64) :
    countModTen n = UInt64.ofNat (lastDigitSum n.toNat) := by
  have hcount := Overflow.countModTen_eq_word .wrap n
  rw [Overflow.countModTen_wrap] at hcount
  exact Option.some.inj hcount

/-- Counting and its closed form agree. A program that goes on with what fits ends both with the
same word, the sum modulo words; one that stops ends both with the exact sum, or stops in both. It
goes on to the end exactly up to one number, whose sum is the greatest word. -/
theorem lastDigits_of_counting (n : UInt64) :
    (countModTen n = countModTenClosed n ∧
        (countModTen n).toNat = lastDigitSum n.toNat % 2 ^ 64) ∧
      (Overflow.wrap.countModTen n = some (countModTen n) ∧
        Overflow.wrap.countModTenClosed n = some (countModTenClosed n)) ∧
      ((∃ sum, Overflow.stop.countModTen n = some sum ∧
          Overflow.stop.countModTenClosed n = some sum ∧ sum.toNat = lastDigitSum n.toNat) ∨
        (Overflow.stop.countModTen n = none ∧ Overflow.stop.countModTenClosed n = none)) ∧
      ((Overflow.stop.countModTen n).isSome ↔ n.toNat ≤ 4099276460824344805) ∧
      ((Overflow.stop.countModTenClosed n).isSome ↔ n.toNat ≤ 4099276460824344805) ∧
      lastDigitSum 4099276460824344805 = 2 ^ 64 - 1 := by
  have hcount := Overflow.countModTen_eq_word .stop n
  have hclosed := Overflow.countModTenClosed_eq_word .stop n
  have hends : (Overflow.stop.word (lastDigitSum n.toNat)).isSome ↔
      n.toNat ≤ 4099276460824344805 :=
    Overflow.isSome_word_stop.trans lastDigitSum_lt_iff
  refine ⟨⟨countModTen_eq_closed n, ?_⟩,
    ⟨Overflow.countModTen_wrap n, Overflow.countModTenClosed_wrap n⟩, ?_, ?_, ?_,
    lastDigitSum_greatest⟩
  · rw [countModTen_eq_ofNat, UInt64.toNat_ofNat']
  · rw [hcount, hclosed]
    cases hword : Overflow.stop.word (lastDigitSum n.toNat) with
    | none => exact .inr ⟨rfl, rfl⟩
    | some sum => exact .inl ⟨sum, rfl, rfl, Overflow.toNat_of_word hword⟩
  · rw [hcount, hends]
  · rw [hclosed, hends]

end BenchRig.Micro
