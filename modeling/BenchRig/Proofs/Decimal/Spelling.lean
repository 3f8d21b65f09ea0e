import BenchRig.Decimal.Numeral

/-!
# Numerals as they are printed

A numeral has the digits with which every number is printed in base ten.
-/

namespace BenchRig.Decimal

theorem digit_eq_digitChar : ∀ d < 10, digit d = Nat.digitChar d := by
  decide

theorem numeralOnto_eq_toDigits (n : Nat) (tail : List Char) :
    numeralOnto n tail = Nat.toDigits 10 n ++ tail := by
  induction n, tail using numeralOnto.induct with
  | case1 n tail hn =>
    rw [numeralOnto, if_pos hn, Nat.toDigits_of_lt_base hn, digit_eq_digitChar n hn]
    rfl
  | case2 n tail hn ih =>
    rw [numeralOnto, if_neg hn, ih, Nat.toDigits_eq_if (n := n) (by decide), if_neg hn,
      digit_eq_digitChar _ (Nat.mod_lt n (by decide))]
    simp

/-- The numeral of a number is the text that the number is printed as. -/
theorem text_eq_toString (n : Nat) : text n = toString n := by
  rw [text, numeral, numeralOnto_eq_toDigits, List.append_nil]
  exact Nat.repr_eq_ofList_toDigits.symm

end BenchRig.Decimal
