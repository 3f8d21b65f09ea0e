import BenchRig.Text.Utf8
import Mathlib.Tactic.SplitIfs

/-!
# Reading back the bytes of a text

The bytes of a character tell how many they are by the first of them, and no shorter part of them is
a character. So decoding takes the same bytes off a text that encoding put there.
-/

namespace BenchRig.Text

variable {a b c d : UInt8}

/-! ## Bytes as numbers -/

theorem isTail_iff : isTail b = true ↔ 0x80 ≤ b.toNat ∧ b.toNat ≤ 0xBF := by
  simp [isTail, UInt8.le_iff_toNat_le]

theorem isSecond_iff :
    isSecond a b = true ↔
      (0x80 ≤ b.toNat ∧ b.toNat ≤ 0xBF) ∧ (a.toNat = 0xE0 → 0xA0 ≤ b.toNat) ∧
        (a.toNat = 0xED → b.toNat ≤ 0x9F) ∧ (a.toNat = 0xF0 → 0x90 ≤ b.toNat) ∧
        (a.toNat = 0xF4 → b.toNat ≤ 0x8F) := by
  unfold isSecond
  simp only [beq_iff_eq, ← UInt8.toNat_inj, UInt8.reduceToNat]
  split_ifs <;> simp [isTail, UInt8.le_iff_toNat_le] <;> omega

theorem width_eq :
    width a =
      if a.toNat < 0x80 then 1
      else if 0xC2 ≤ a.toNat ∧ a.toNat ≤ 0xDF then 2
      else if 0xE0 ≤ a.toNat ∧ a.toNat ≤ 0xEF then 3
      else if 0xF0 ≤ a.toNat ∧ a.toNat ≤ 0xF4 then 4
      else 0 := by
  simp [width, UInt8.le_iff_toNat_le, UInt8.lt_iff_toNat_lt]

theorem toNat_ofNat {n : Nat} (h : n < 256) : (UInt8.ofNat n).toNat = n :=
  UInt8.toNat_ofNat_of_lt' h

theorem toNat_tail (n : Nat) : (UInt8.ofNat (n % 64 + 0x80)).toNat = n % 64 + 0x80 :=
  toNat_ofNat (by omega)

/-! ## The four lengths of a character -/

section Lengths

variable {n : Nat} (rest : List UInt8)

theorem decodeOne_one (ha : a.toNat = n) (hn : n ≤ 0x7F) :
    decodeOne a rest = (Char.ofNat n, rest) := by
  have hwidth : width a = 1 := by rw [width_eq, if_pos (by omega)]
  unfold decodeOne
  rw [hwidth, ha]
  rfl

theorem decodeOne_two (ha : a.toNat = n / 64 + 0xC0) (hb : b.toNat = n % 64 + 0x80)
    (hlow : 0x7F < n) (hhigh : n ≤ 0x7FF) :
    decodeOne a (b :: rest) = (Char.ofNat n, rest) := by
  have hwidth : width a = 2 := by rw [width_eq, if_neg (by omega), if_pos (by omega)]
  have hsecond : isSecond a b = true := isSecond_iff.mpr (by omega)
  have hnumber : a.toNat % 32 * 64 + b.toNat % 64 = n := by omega
  unfold decodeOne
  rw [hwidth, ← hnumber]
  exact if_pos hsecond

/-- Surrogates have no bytes. -/
theorem decodeOne_three (ha : a.toNat = n / 4096 + 0xE0) (hb : b.toNat = n / 64 % 64 + 0x80)
    (hc : c.toNat = n % 64 + 0x80) (hlow : 0x7FF < n) (hhigh : n ≤ 0xFFFF)
    (hvalid : n < 0xD800 ∨ 0xDFFF < n) :
    decodeOne a (b :: c :: rest) = (Char.ofNat n, rest) := by
  have hwidth : width a = 3 := by
    rw [width_eq, if_neg (by omega), if_neg (by omega), if_pos (by omega)]
  have hsecond : isSecond a b = true := isSecond_iff.mpr (by omega)
  have htail : isTail c = true := isTail_iff.mpr (by omega)
  have hnumber : (a.toNat % 16 * 64 + b.toNat % 64) * 64 + c.toNat % 64 = n := by omega
  unfold decodeOne
  rw [hwidth, ← hnumber]
  exact (if_pos hsecond).trans (if_pos htail)

/-- The last code point bounds the first two bytes. -/
theorem decodeOne_four (ha : a.toNat = n / 262144 + 0xF0) (hb : b.toNat = n / 4096 % 64 + 0x80)
    (hc : c.toNat = n / 64 % 64 + 0x80) (hd : d.toNat = n % 64 + 0x80) (hlow : 0xFFFF < n)
    (hhigh : n < 0x110000) :
    decodeOne a (b :: c :: d :: rest) = (Char.ofNat n, rest) := by
  have hwidth : width a = 4 := by
    rw [width_eq, if_neg (by omega), if_neg (by omega), if_neg (by omega), if_pos (by omega)]
  have hsecond : isSecond a b = true := isSecond_iff.mpr (by omega)
  have hthird : isTail c = true := isTail_iff.mpr (by omega)
  have hfourth : isTail d = true := isTail_iff.mpr (by omega)
  have hnumber : ((a.toNat % 8 * 64 + b.toNat % 64) * 64 + c.toNat % 64) * 64 + d.toNat % 64 = n := by
    omega
  unfold decodeOne
  rw [hwidth, ← hnumber]
  exact (if_pos hsecond).trans ((if_pos hthird).trans (if_pos hfourth))

end Lengths

/-! ## The bytes of a character -/

/-- The bytes of the character with number `n`. -/
inductive Bytes (n : Nat) : List UInt8 → Prop where
  | one {a : UInt8} (ha : a.toNat = n) (hhigh : n ≤ 0x7F) : Bytes n [a]
  | two {a b : UInt8} (ha : a.toNat = n / 64 + 0xC0) (hb : b.toNat = n % 64 + 0x80)
      (hlow : 0x7F < n) (hhigh : n ≤ 0x7FF) : Bytes n [a, b]
  | three {a b c : UInt8} (ha : a.toNat = n / 4096 + 0xE0) (hb : b.toNat = n / 64 % 64 + 0x80)
      (hc : c.toNat = n % 64 + 0x80) (hlow : 0x7FF < n) (hhigh : n ≤ 0xFFFF) : Bytes n [a, b, c]
  | four {a b c d : UInt8} (ha : a.toNat = n / 262144 + 0xF0)
      (hb : b.toNat = n / 4096 % 64 + 0x80) (hc : c.toNat = n / 64 % 64 + 0x80)
      (hd : d.toNat = n % 64 + 0x80) (hlow : 0xFFFF < n) : Bytes n [a, b, c, d]

theorem bytes_utf8EncodeChar (ch : Char) : Bytes ch.toNat (String.utf8EncodeChar ch) := by
  have hvalid : ch.toNat < 0xD800 ∨ 0xDFFF < ch.toNat ∧ ch.toNat < 0x110000 := ch.valid
  have hn : ch.val.toNat = ch.toNat := rfl
  unfold String.utf8EncodeChar
  simp only [hn]
  generalize ch.toNat = n at hvalid ⊢
  by_cases hone : n ≤ 0x7F
  · rw [if_pos hone]
    exact .one (toNat_ofNat (by omega)) hone
  rw [if_neg hone]
  by_cases htwo : n ≤ 0x7FF
  · have ha : (UInt8.ofNat (n / 64 % 0x20 + 0xC0)).toNat = n / 64 + 0xC0 := by
      rw [toNat_ofNat (by omega)]
      omega
    rw [if_pos htwo]
    exact .two ha (toNat_tail n) (by omega) htwo
  rw [if_neg htwo]
  by_cases hthree : n ≤ 0xFFFF
  · have ha : (UInt8.ofNat (n / 4096 % 0x10 + 0xE0)).toNat = n / 4096 + 0xE0 := by
      rw [toNat_ofNat (by omega)]
      omega
    rw [if_pos hthree]
    exact .three ha (toNat_tail (n / 64)) (toNat_tail n) (by omega) hthree
  · have ha : (UInt8.ofNat (n / 262144 % 0x08 + 0xF0)).toNat = n / 262144 + 0xF0 := by
      rw [toNat_ofNat (by omega)]
      omega
    rw [if_neg hthree]
    exact .four ha (toNat_tail (n / 4096)) (toNat_tail (n / 64)) (toNat_tail n) (by omega)

theorem decodeOne_utf8EncodeChar (ch : Char) (rest : List UInt8) :
    ∃ a tail, String.utf8EncodeChar ch = a :: tail ∧ decodeOne a (tail ++ rest) = (ch, rest) := by
  have hvalid : ch.toNat < 0xD800 ∨ 0xDFFF < ch.toNat ∧ ch.toNat < 0x110000 := ch.valid
  have hself : Char.ofNat ch.toNat = ch := Char.ofNat_toNat ch
  have hbytes := bytes_utf8EncodeChar ch
  generalize ch.toNat = n at hvalid hself hbytes
  generalize String.utf8EncodeChar ch = bytes at hbytes ⊢
  subst hself
  cases hbytes with
  | one ha hhigh => exact ⟨_, [], rfl, decodeOne_one rest ha hhigh⟩
  | two ha hb hlow hhigh => exact ⟨_, [_], rfl, decodeOne_two rest ha hb hlow hhigh⟩
  | three ha hb hc hlow hhigh =>
    exact ⟨_, [_, _], rfl, decodeOne_three rest ha hb hc hlow hhigh (by omega)⟩
  | four ha hb hc hd hlow =>
    exact ⟨_, [_, _, _], rfl, decodeOne_four rest ha hb hc hd hlow (by omega)⟩

/-! ## Texts -/

theorem decodeChars_flatMap (cs : List Char) :
    decodeChars (cs.flatMap String.utf8EncodeChar) = cs := by
  induction cs with
  | nil => rw [List.flatMap_nil, decodeChars]
  | cons ch cs ih =>
    obtain ⟨a, tail, hbytes, hone⟩ :=
      decodeOne_utf8EncodeChar ch (cs.flatMap String.utf8EncodeChar)
    rw [List.flatMap_cons, hbytes, List.cons_append, decodeChars, hone]
    dsimp only
    rw [ih]

theorem decode_encode (s : String) : decode (encode s) = s := by
  rw [decode, encode, decodeChars_flatMap, String.ofList_toList]

end BenchRig.Text
