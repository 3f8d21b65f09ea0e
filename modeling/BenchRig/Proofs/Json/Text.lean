import BenchRig.Json.Draft
import BenchRig.Json.Printer

/-!
# Strings are read back

Every character is written as an escape or as itself, and what is written for one character is read
as that character and nothing else. Strings follow by induction over their characters.
-/

namespace BenchRig.Json

theorem hexValue?_hexDigit {d : Nat} (h : d < 16) : hexValue? (hexDigit d) = some d := by
  have all : ∀ d < 16, hexValue? (hexDigit d) = some d := by decide
  exact all d h

theorem utf8Size_hexDigit {d : Nat} (h : d < 16) : (hexDigit d).utf8Size = 1 := by
  have all : ∀ d < 16, (hexDigit d).utf8Size = 1 := by decide
  exact all d h

/-- The code unit of a control character, given by its last two digits. -/
theorem readUnit_hexDigits {n : Nat} (h : n < 256) (rest : List Char) :
    readUnit ('0' :: '0' :: hexDigit (n / 16) :: hexDigit (n % 16) :: rest) = .ok (n, rest) := by
  have hhigh : n / 16 < 16 := by omega
  have hlow : n % 16 < 16 := by omega
  have hzero : hexValue? '0' = some 0 := by decide
  have hbytes :
      hasBytes 4 ('0' :: '0' :: hexDigit (n / 16) :: hexDigit (n % 16) :: rest) = true := by
    have hascii : '0'.utf8Size = 1 := by decide
    simp [hasBytes, utf8Size_hexDigit hhigh, utf8Size_hexDigit hlow, hascii]
  have hvalue : ((0 * 16 + 0) * 16 + n / 16) * 16 + n % 16 = n := by omega
  simp only [readUnit, hbytes, hzero, hexValue?_hexDigit hhigh, hexValue?_hexDigit hlow, hvalue]
  rfl

theorem readUnicode_hexDigits {c : Char} (h : c < ' ') (rest : List Char) :
    readUnicode ('0' :: '0' :: hexDigit (c.toNat / 16) :: hexDigit (c.toNat % 16) :: rest) =
      .ok (c, rest) := by
  have hsmall : c.toNat < 32 := h
  have hunit := readUnit_hexDigits (by omega : c.toNat < 256) rest
  have hlone : ¬(0xDC00 ≤ c.toNat ∧ c.toNat ≤ 0xDFFF) := by omega
  have halone : c.toNat < 0xD800 ∨ 0xDBFF < c.toNat := .inl (by omega)
  simp only [readUnicode, hunit, bind, Except.bind]
  rw [if_neg hlone]
  simp only [pure, Except.pure]
  rw [if_pos halone, Char.ofNat_toNat]

/-! ## One character -/

theorem readString_short {e c : Char} (h : shortEscape? e = some c) (fuel : Nat)
    (rest : List Char) :
    readString (fuel + 1) ('\\' :: e :: rest) =
      (readString fuel rest).map fun p => (c :: p.1, p.2) := by
  have he : e ≠ 'u' := by
    rintro rfl
    cases h
  rw [readString]
  · simp only [h, bind, Except.bind]
    cases readString fuel rest <;> rfl
  · exact he

theorem readString_control {c : Char} (h : c < ' ') (fuel : Nat) (rest : List Char) :
    readString (fuel + 1)
        ('\\' :: 'u' :: '0' :: '0' :: hexDigit (c.toNat / 16) :: hexDigit (c.toNat % 16) :: rest) =
      (readString fuel rest).map fun p => (c :: p.1, p.2) := by
  rw [readString]
  simp only [readUnicode_hexDigits h, bind, Except.bind]
  cases readString fuel rest <;> rfl

theorem readString_plain {c : Char} (hquote : c ≠ '"') (hslash : c ≠ '\\') (h : ¬c < ' ')
    (fuel : Nat) (rest : List Char) :
    readString (fuel + 1) (c :: rest) = (readString fuel rest).map fun p => (c :: p.1, p.2) := by
  rw [readString]
  · rw [if_neg h]
    simp only [bind, Except.bind]
    cases readString fuel rest <;> rfl
  · exact hquote
  · intro hc
    exact absurd hc hslash
  · intro _ hc
    exact absurd hc hslash
  · intro _ _ hc
    exact absurd hc hslash

/-- What is written for one character is read as this character. -/
theorem readString_escapeChar (c : Char) (fuel : Nat) (rest : List Char) :
    readString (fuel + 1) (escapeChar c ++ rest) =
      (readString fuel rest).map fun p => (c :: p.1, p.2) := by
  unfold escapeChar
  split
  case h_8 hquote hslash _ _ _ _ _ =>
    split
    · next hcontrol => exact readString_control hcontrol fuel rest
    · next hshown => exact readString_plain hquote hslash hshown fuel rest
  all_goals exact readString_short rfl fuel rest

/-! ## Strings -/

theorem escapeChar_ne_nil (c : Char) : escapeChar c ≠ [] := by
  unfold escapeChar
  repeat' split
  all_goals exact List.cons_ne_nil _ _

theorem length_le_flatMap_escapeChar (cs : List Char) :
    cs.length ≤ (cs.flatMap escapeChar).length := by
  induction cs with
  | nil => exact Nat.le_refl _
  | cons c cs ih =>
    have hc := List.length_pos_iff.mpr (escapeChar_ne_nil c)
    rw [List.flatMap_cons, List.length_append, List.length_cons]
    omega

theorem readString_flatMap (cs : List Char) (rest : List Char) {fuel : Nat}
    (h : cs.length < fuel) :
    readString fuel (cs.flatMap escapeChar ++ '"' :: rest) = .ok (cs, rest) := by
  induction cs generalizing fuel with
  | nil =>
    obtain ⟨fuel, rfl⟩ := Nat.exists_eq_succ_of_ne_zero (Nat.ne_of_gt h)
    simp [readString]
  | cons c cs ih =>
    obtain ⟨fuel, rfl⟩ := Nat.exists_eq_succ_of_ne_zero (Nat.ne_of_gt (Nat.zero_lt_of_lt h))
    rw [List.flatMap_cons, List.append_assoc, readString_escapeChar,
      ih (Nat.lt_of_succ_lt_succ h)]
    rfl

/-- A written string, its opening quote already read. -/
theorem scanString_flatMap (s : String) (rest : List Char) :
    scanString (s.toList.flatMap escapeChar ++ '"' :: rest) = .ok (.ok s, rest) := by
  have hfuel : s.toList.length <
      (s.toList.flatMap escapeChar ++ '"' :: rest).length + 1 := by
    have := length_le_flatMap_escapeChar s.toList
    rw [List.length_append]
    omega
  rw [scanString, readString_flatMap _ rest hfuel]
  simp

end BenchRig.Json
