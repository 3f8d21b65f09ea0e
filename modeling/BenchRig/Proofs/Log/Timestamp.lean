import BenchRig.Log.Timestamp
import BenchRig.Proofs.Decimal.Padded
import Mathlib.Tactic.SplitIfs

/-!
# Timestamps are read back

A point in time that the calendar knows is the same after it was written in the form for machines
and read from it. The text is divided by characters that are neither digits nor blanks, so each part
ends where its numeral ends.
-/

namespace BenchRig.Log.Timestamp

open Decimal

/-- A point in time that the calendar knows, in the range of years that can be read. -/
structure Valid (t : Timestamp) : Prop where
  year : -262143 ≤ t.year ∧ t.year ≤ 262142
  month : 1 ≤ t.month ∧ t.month ≤ 12
  day : 1 ≤ t.day ∧ t.day ≤ monthLength t.year t.month
  hour : t.hour ≤ 23
  minute : t.minute ≤ 59
  second : t.second ≤ 60
  nano : t.nano < 1000000000

theorem monthLength_le (year : Int) (month : Nat) : monthLength year month ≤ 31 := by
  unfold monthLength
  split_ifs <;> decide

/-! ## Numbers -/

/-- What holds of the ten digits holds of every character that is read as one. -/
theorem of_digitValue? (P : Char → Prop) (h : ∀ d < 10, P (digit d)) {c : Char}
    (hc : (digitValue? c).isSome) : P c := by
  unfold digitValue? at hc
  split_ifs at hc with hrange
  · have hlow : 48 ≤ c.toNat := hrange.1
    have hhigh : c.toNat ≤ 57 := hrange.2
    have hdigit := h (c.toNat - 48) (by omega)
    have hzero : '0'.toNat = 48 := rfl
    rwa [digit, hzero, Nat.add_sub_cancel' hlow, Char.ofNat_toNat] at hdigit
  · cases hc

theorem trim_cons {c : Char} (h : isSpace c = false) (cs : List Char) : trim (c :: cs) = c :: cs := by
  rw [trim, List.dropWhile_cons, h]
  rfl

/-- A text that does not begin with a digit. -/
def EndsDigits (rest : List Char) : Prop := ∀ c ∈ rest.head?, digitValue? c = none

theorem endsDigits_cons {c : Char} (h : digitValue? c = none) (rest : List Char) :
    EndsDigits (c :: rest) := by
  intro d hd
  cases hd
  exact h

theorem takeWhile_digits {ds rest : List Char} (hds : ∀ c ∈ ds, (digitValue? c).isSome)
    (hrest : EndsDigits rest) : (ds ++ rest).takeWhile (fun c => (digitValue? c).isSome) = ds := by
  rw [List.takeWhile_append_of_pos hds]
  cases rest with
  | nil => rw [List.takeWhile_nil, List.append_nil]
  | cons c rest =>
    have hc : digitValue? c = none := hrest c rfl
    simp [hc]

theorem readNumber_append {ds rest : List Char} {n width : Nat} (h : Denotes ds n)
    (hrest : EndsDigits rest) (hwidth : ds.length ≤ width) (hn : n < 9223372036854775808) :
    readNumber width (ds ++ rest) = .ok (n, rest) := by
  have hdigits : ((ds ++ rest).takeWhile fun c => (digitValue? c).isSome).take width = ds := by
    rw [takeWhile_digits h.digits hrest, List.take_of_length_le hwidth]
  obtain ⟨c, cs, rfl⟩ := List.exists_cons_of_ne_nil h.nonempty
  simp only [readNumber, hdigits]
  rw [h.value, if_pos hn, List.drop_left]

theorem trim_append {ds : List Char} {n : Nat} (h : Denotes ds n) (rest : List Char) :
    trim (ds ++ rest) = ds ++ rest := by
  obtain ⟨c, cs, rfl⟩ := List.exists_cons_of_ne_nil h.nonempty
  have hspace := of_digitValue? (fun c => isSpace c = false) (by decide)
    (h.digits c List.mem_cons_self)
  exact trim_cons hspace (cs ++ rest)

/-- A part of two digits is read back, if it lies between the bounds. -/
theorem readPart_padded {least greatest n : Nat} (hleast : least ≤ n) (hgreatest : n ≤ greatest)
    (hn : n < 100) (rest : List Char) (hrest : EndsDigits rest) :
    readPart 2 least greatest (paddedNumeral 2 n ++ rest) = .ok (n, rest) := by
  have hdenotes := denotes_paddedNumeral 2 n
  have hlength : (paddedNumeral 2 n).length = 2 := length_paddedNumeral (by decide) hn
  have hnumber := readNumber_append hdenotes hrest (Nat.le_of_eq hlength) (by omega)
  have hbounds : ¬(n < least ∨ greatest < n) := by omega
  simp only [readPart, trim_append hdenotes rest, hnumber, bind, Except.bind]
  rw [if_neg hbounds]
  rfl

theorem readMark_cons {mark : Char} (h : isSpace mark = false) (rest : List Char) :
    readMark mark (mark :: rest) = .ok rest := by
  simp only [readMark, trim_cons h, if_true]

/-! ## Years -/

/-- Without a sign, a year has four digits. -/
theorem readYear_append {ds rest : List Char} {n : Nat} (h : Denotes ds n)
    (hlength : ds.length = 4) (hn : n ≤ 262142) (hrest : EndsDigits rest) :
    readYear (ds ++ rest) = .ok (n, rest) := by
  have hnumber := readNumber_append h hrest (Nat.le_of_eq hlength) (by omega)
  have hrange : ¬((n : Int) < -262143 ∨ 262142 < (n : Int)) := by omega
  have htrim := trim_append h rest
  obtain ⟨c, cs, rfl⟩ := List.exists_cons_of_ne_nil h.nonempty
  obtain ⟨hminus, hplus⟩ := of_digitValue? (fun c => c ≠ '-' ∧ c ≠ '+') (by decide)
    (h.digits c List.mem_cons_self)
  unfold readYear
  rw [htrim]
  simp only [List.cons_append, bind, Except.bind, pure, Except.pure] at hnumber ⊢
  split
  · next heq => exact absurd (List.cons.inj heq).1 hminus
  · next heq => exact absurd (List.cons.inj heq).1 hplus
  · simp only [hnumber]
    rw [if_neg hrange]

/-- After its sign, a year has any number of digits. -/
theorem readYear_signed {sign : Char} {year : Int} {rest : List Char}
    (hsign : (sign = '-' ∧ year ≤ 0) ∨ (sign = '+' ∧ 0 ≤ year))
    (hyear : -262143 ≤ year ∧ year ≤ 262142) (hrest : EndsDigits rest) :
    readYear (sign :: paddedNumeral 4 year.natAbs ++ rest) = .ok (year, rest) := by
  have hlength : (paddedNumeral 4 year.natAbs).length ≤
      (paddedNumeral 4 year.natAbs ++ rest).length := by simp
  have hnumber := readNumber_append (denotes_paddedNumeral 4 year.natAbs) hrest hlength (by omega)
  have hrange : ¬(year < -262143 ∨ 262142 < year) := by omega
  rcases hsign with ⟨rfl, hsign⟩ | ⟨rfl, hsign⟩
  · have hvalue : -(year.natAbs : Int) = year := by omega
    have hminus : isSpace '-' = false := by decide
    simp only [readYear, List.cons_append, trim_cons hminus, hnumber, bind, Except.bind, pure,
      Except.pure, hvalue]
    rw [if_neg hrange]
  · have hvalue : (year.natAbs : Int) = year := by omega
    have hplus : isSpace '+' = false := by decide
    simp only [readYear, List.cons_append, trim_cons hplus, hnumber, bind, Except.bind, pure,
      Except.pure, hvalue]
    rw [if_neg hrange]

theorem readYear_yearText {year : Int} (hyear : -262143 ≤ year ∧ year ≤ 262142)
    (rest : List Char) (hrest : EndsDigits rest) :
    readYear (yearText year ++ rest) = .ok (year, rest) := by
  unfold yearText
  split_ifs with hshort hneg
  · have hlength : (paddedNumeral 4 year.natAbs).length = 4 :=
      length_paddedNumeral (by decide) (by omega)
    have hvalue : (year.natAbs : Int) = year := by omega
    have hread := readYear_append (denotes_paddedNumeral 4 year.natAbs) hlength (by omega) hrest
    rwa [hvalue] at hread
  · exact readYear_signed (.inl ⟨rfl, by omega⟩) hyear hrest
  · exact readYear_signed (.inr ⟨rfl, by omega⟩) hyear hrest

/-! ## Fractions -/

/-- A fraction is read as the nanoseconds that its digits stand for at their places. -/
theorem readFraction_padded (places n : Nat) {rest : List Char} (hpos : 0 < places)
    (hplaces : places ≤ 9) (hn : n < 10 ^ places) (hrest : EndsDigits rest) :
    readFraction ('.' :: (paddedNumeral places n ++ rest)) =
      .ok (n * 10 ^ (9 - places), rest) := by
  have hlength : (paddedNumeral places n).length = places := length_paddedNumeral hpos hn
  have hbound : n < 9223372036854775808 := by
    have hnine : 10 ^ places ≤ 10 ^ 9 := Nat.pow_le_pow_right (by decide) hplaces
    omega
  have hwidth : (paddedNumeral places n).length ≤ 9 := by omega
  have hnumber := readNumber_append (denotes_paddedNumeral places n) hrest hwidth hbound
  have hused : (paddedNumeral places n ++ rest).length - rest.length = places := by
    rw [List.length_append, hlength, Nat.add_sub_cancel]
  have hmore : rest.dropWhile (fun c => (digitValue? c).isSome) = rest := by
    cases rest with
    | nil => rfl
    | cons c rest =>
      have hc : digitValue? c = none := hrest c rfl
      simp [hc]
  simp only [readFraction, hnumber, bind, Except.bind, hused, hmore]
  rfl

theorem readFraction_fractionText {nano : Nat} (hnano : nano < 1000000000) {c : Char}
    (hc : digitValue? c = none) (hpoint : c ≠ '.') (rest : List Char) :
    readFraction (fractionText nano ++ c :: rest) = .ok (nano, c :: rest) := by
  have hrest := endsDigits_cons hc rest
  unfold fractionText
  split_ifs with hzero hmilli hmicro
  · simp [readFraction, hpoint, hzero]
  · have hread := readFraction_padded 3 (nano / 1000000) (by decide) (by decide) (by omega)
      hrest
    have hvalue : nano / 1000000 * 10 ^ (9 - 3) = nano := by omega
    rwa [hvalue] at hread
  · have hread := readFraction_padded 6 (nano / 1000) (by decide) (by decide) (by omega)
      hrest
    have hvalue : nano / 1000 * 10 ^ (9 - 6) = nano := by omega
    rwa [hvalue] at hread
  · have hread := readFraction_padded 9 nano (by decide) (by decide) (by omega) hrest
    have hvalue : nano * 10 ^ (9 - 9) = nano := by omega
    rwa [hvalue] at hread

/-! ## Timestamps -/

/-- Universal time needs no correction. -/
theorem withOffset_zero {t : Timestamp} (h : t.Valid) : t.withOffset 0 = t := by
  obtain ⟨year, month, day, hour, minute, second, nano⟩ := t
  have hhour : hour ≤ 23 := h.hour
  have hminute : minute ≤ 59 := h.minute
  have hsecond : second ≤ 60 := h.second
  obtain ⟨base, hbase, hle⟩ : ∃ base, base = (if second = 60 then 59 else second) ∧ base ≤ 59 := by
    refine ⟨_, rfl, ?_⟩
    split_ifs <;> omega
  have hstart : ¬((hour * 3600 + minute * 60 + base - 0 : Int) < 0) := by omega
  have hend : ¬(86400 ≤ (hour * 3600 + minute * 60 + base - 0 : Int)) := by omega
  simp only [withOffset, ← hbase, if_neg hstart, if_neg hend]
  congr
  · omega
  · omega
  · split_ifs at hbase <;> omega

/-- The parts of the text, from the first one on. -/
theorem toList_machine (t : Timestamp) :
    t.machine.toList = yearText t.year ++ '-' :: (paddedNumeral 2 t.month ++
      '-' :: (paddedNumeral 2 t.day ++ 'T' :: (paddedNumeral 2 t.hour ++
      ':' :: (paddedNumeral 2 t.minute ++ ':' :: (paddedNumeral 2 t.second ++
      (fractionText t.nano ++ ['Z'])))))) := by
  simp [machine, dateText, timeText]

theorem endsDigits_fractionText (nano : Nat) : EndsDigits (fractionText nano ++ ['Z']) := by
  unfold fractionText
  split_ifs <;> exact endsDigits_cons (by decide) _

theorem ofText_machine {t : Timestamp} (h : t.Valid) : ofText t.machine = .ok t := by
  obtain ⟨hmonth₁, hmonth₁₂⟩ := h.month
  obtain ⟨hday₁, hlast⟩ := h.day
  have hday : t.day ≤ 31 := Nat.le_trans hlast (monthLength_le t.year t.month)
  have hhour := h.hour
  have hminute := h.minute
  have hsecond := h.second
  -- The characters between the parts, none of which is a digit or a blank.
  have hhyphen : ∀ rest, EndsDigits ('-' :: rest) := endsDigits_cons (by decide)
  have hletter : ∀ rest, EndsDigits ('T' :: rest) := endsDigits_cons (by decide)
  have hcolon : ∀ rest, EndsDigits (':' :: rest) := endsDigits_cons (by decide)
  have hend := endsDigits_fractionText t.nano
  have hmark : ∀ rest, readMark '-' ('-' :: rest) = .ok rest := readMark_cons (by decide)
  have hmark' : ∀ rest, readMark ':' (':' :: rest) = .ok rest := readMark_cons (by decide)
  -- The parts themselves, whatever follows them.
  have hreadYear := readYear_yearText h.year
  have hreadMonth := readPart_padded hmonth₁ hmonth₁₂ (by omega)
  have hreadDay := readPart_padded hday₁ hday (by omega)
  have hreadHour := readPart_padded (Nat.zero_le t.hour) hhour (by omega)
  have hreadMinute := readPart_padded (Nat.zero_le t.minute) hminute (by omega)
  have hreadSecond := readPart_padded (Nat.zero_le t.second) hsecond (by omega)
  have hpoint : digitValue? 'Z' = none ∧ 'Z' ≠ '.' := by decide
  have hreadNano := readFraction_fractionText h.nano hpoint.1 hpoint.2 []
  have hoffset : readOffset (trim ['Z']) = .ok (0, []) := rfl
  have hnil : (trim []).isEmpty = true := rfl
  have hrange : ¬((0 : Int) ≤ -86400 ∨ 86400 ≤ (0 : Int) ∨
      monthLength t.year t.month < t.day) := by omega
  simp only [ofText, toList_machine, hreadYear _ (hhyphen _), hmark, hreadMonth _ (hhyphen _),
    hreadDay _ (hletter _), hreadHour _ (hcolon _), hmark', hreadMinute _ (hcolon _),
    hreadSecond _ hend, hreadNano, hoffset, hnil, bind, Except.bind, pure, Except.pure, true_or,
    if_true, Bool.not_true, Bool.false_eq_true, if_false]
  rw [if_neg hrange]
  exact congrArg _ (withOffset_zero h)

end BenchRig.Log.Timestamp
