import BenchRig.Json.Numeral

/-!
# Integer numerals are read back

The digits of a natural number are written from the last one on and read from the first one on.
`digitsOf` is the list of digits that both have in common.
-/

namespace BenchRig.Json

open Decimal

/-- The digits of `n`, the first one first. -/
def digitsOf (n : Nat) : List Nat :=
  if n < 10 then [n] else digitsOf (n / 10) ++ [n % 10]
termination_by n
decreasing_by omega

theorem digitsOf_small {n : Nat} (h : n < 10) : digitsOf n = [n] := by
  rw [digitsOf, if_pos h]

theorem digitsOf_large {n : Nat} (h : ¬n < 10) : digitsOf n = digitsOf (n / 10) ++ [n % 10] := by
  rw [digitsOf, if_neg h]

theorem ofDigits_append_singleton (ds : List Nat) (d : Nat) :
    ofDigits (ds ++ [d]) = 10 * ofDigits ds + d := by
  rw [ofDigits, List.foldl_append]
  rfl

theorem ofDigits_digitsOf (n : Nat) : ofDigits (digitsOf n) = n := by
  induction n using Nat.strongRecOn with
  | ind n ih =>
    by_cases h : n < 10
    · rw [digitsOf_small h]
      simp [ofDigits]
    · rw [digitsOf_large h, ofDigits_append_singleton, ih (n / 10) (by omega)]
      omega

theorem digitsOf_ne_nil (n : Nat) : digitsOf n ≠ [] := by
  by_cases h : n < 10
  · rw [digitsOf_small h]
    exact List.cons_ne_nil _ _
  · rw [digitsOf_large h]
    exact List.append_ne_nil_of_right_ne_nil _ (List.cons_ne_nil _ _)

/-- A zero in front stands alone. -/
theorem length_digitsOf_of_head? {n : Nat} (h : (digitsOf n).head? = some 0) :
    (digitsOf n).length = 1 := by
  induction n using Nat.strongRecOn with
  | ind n ih =>
    by_cases hn : n < 10
    · rw [digitsOf_small hn]
      rfl
    · -- The front digits would be a lone zero, and the number below ten.
      have hhead : (digitsOf (n / 10)).head? = some 0 := by
        obtain ⟨d, ds, hds⟩ := List.exists_cons_of_ne_nil (digitsOf_ne_nil (n / 10))
        rw [digitsOf_large hn, hds, List.cons_append] at h
        rw [hds]
        exact h
      have hlength := ih (n / 10) (by omega) hhead
      have hzero : digitsOf (n / 10) = [0] := by
        obtain ⟨d, hd⟩ := List.length_eq_one_iff.mp hlength
        rw [hd] at hhead
        rw [hd, Option.some.inj hhead]
      have hvalue := ofDigits_digitsOf (n / 10)
      rw [hzero] at hvalue
      simp only [ofDigits, List.foldl_cons, List.foldl_nil] at hvalue
      omega

theorem digitValue?_digit {d : Nat} (h : d < 10) : digitValue? (digit d) = some d := by
  have all : ∀ d < 10, digitValue? (digit d) = some d := by decide
  exact all d h

/-- The digits of a numeral come in front of those that follow it. -/
theorem spanDigits_numeralOnto (n : Nat) (tail : List Char) :
    spanDigits (numeralOnto n tail) = (digitsOf n ++ (spanDigits tail).1, (spanDigits tail).2) := by
  induction n using Nat.strongRecOn generalizing tail with
  | ind n ih =>
    rw [numeralOnto]
    by_cases h : n < 10
    · rw [if_pos h, digitsOf_small h, spanDigits]
      simp [digitValue?_digit h]
    · rw [if_neg h, ih (n / 10) (by omega), digitsOf_large h, spanDigits]
      simp [digitValue?_digit (Nat.mod_lt n (by decide : 0 < 10))]

theorem exists_numeralOnto_eq_cons (n : Nat) (tail : List Char) :
    ∃ d < 10, ∃ cs, numeralOnto n tail = digit d :: cs := by
  induction n using Nat.strongRecOn generalizing tail with
  | ind n ih =>
    rw [numeralOnto]
    by_cases h : n < 10
    · rw [if_pos h]
      exact ⟨n, h, tail, rfl⟩
    · rw [if_neg h]
      exact ih (n / 10) (by omega) _

/-- A text that does not go on a numeral in front of it. -/
def EndsNumeral (rest : List Char) : Prop :=
  ∀ c ∈ rest.head?, digitValue? c = none ∧ c ≠ '.' ∧ c ≠ 'e' ∧ c ≠ 'E'

theorem endsNumeral_nil : EndsNumeral [] := by
  intro c hc
  cases hc

theorem endsNumeral_cons {c : Char} (rest : List Char)
    (h : digitValue? c = none ∧ c ≠ '.' ∧ c ≠ 'e' ∧ c ≠ 'E') : EndsNumeral (c :: rest) := by
  intro d hd
  cases hd
  exact h

theorem numeralOnto_append (n : Nat) (tail rest : List Char) :
    numeralOnto n tail ++ rest = numeralOnto n (tail ++ rest) := by
  induction n using Nat.strongRecOn generalizing tail with
  | ind n ih =>
    rw [numeralOnto.eq_1 n tail, numeralOnto.eq_1 n (tail ++ rest)]
    by_cases h : n < 10
    · rw [if_pos h, if_pos h, List.cons_append]
    · rw [if_neg h, if_neg h, ih (n / 10) (by omega), List.cons_append]

theorem spanDigits_numeral (n : Nat) {rest : List Char} (h : EndsNumeral rest) :
    spanDigits (numeral n ++ rest) = (digitsOf n, rest) := by
  have hrest : spanDigits rest = ([], rest) := by
    cases rest with
    | nil => rfl
    | cons c rest =>
      obtain ⟨hdigit, -⟩ := h c rfl
      simp [spanDigits, hdigit]
  rw [numeral, numeralOnto_append, List.nil_append, spanDigits_numeralOnto, hrest, List.append_nil]

theorem readNumeral_numeral (negative : Bool) (n : Nat) {rest : List Char} (h : EndsNumeral rest) :
    readNumeral negative (numeral n ++ rest) = .ok (⟨negative, digitsOf n, none, none⟩, rest) := by
  have hdigits : someDigits (numeral n ++ rest) = .ok (digitsOf n, rest) := by
    rw [someDigits, spanDigits_numeral n h]
    cases hds : digitsOf n with
    | nil => exact absurd hds (digitsOf_ne_nil n)
    | cons d ds => rfl
  have hzero : ¬((digitsOf n).head? = some 0 ∧ (digitsOf n).length ≠ 1) := by
    rintro ⟨hhead, hlength⟩
    exact hlength (length_digitsOf_of_head? hhead)
  have hfraction : readFraction rest = .ok (none, rest) := by
    unfold readFraction
    split
    · exact absurd rfl (h '.' rfl).2.1
    · rfl
  have hexponent : readExponent rest = .ok (none, rest) := by
    cases rest with
    | nil => rfl
    | cons c rest =>
      obtain ⟨-, -, hlower, hupper⟩ := h c rfl
      simp [readExponent, hlower, hupper]
  simp only [readNumeral, hdigits, bind, Except.bind, hfraction, hexponent]
  rw [if_neg hzero]
  rfl

/-- A numeral of an integer that is kept as one has it as its value. -/
theorem Numeral.value_digitsOf (negative : Bool) {n : Nat} {i : Integer}
    (hi : i.val = if negative then -(n : Int) else n) (hsign : ¬(negative ∧ n = 0)) :
    (⟨negative, digitsOf n, none, none⟩ : Numeral).value = .ok (.integer i) := by
  have hword : isWord (if negative then -(n : Int) else n) = true := hi ▸ i.property
  have heq : (⟨_, hword⟩ : Integer) = i := Subtype.ext hi.symm
  simp only [Numeral.value, ofDigits_digitsOf, Option.isNone_none, true_and, hsign,
    not_false_eq_true, if_true]
  rw [dif_pos hword, heq]

end BenchRig.Json
