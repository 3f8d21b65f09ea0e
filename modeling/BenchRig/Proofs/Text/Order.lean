import BenchRig.Proofs.Text.Utf8

/-!
# Texts in the order of their bytes

The bytes of characters compare as their numbers do: of two characters with as many bytes the first
byte that differs decides, and one with more bytes starts with a greater one. So texts are ordered
by their characters as they are by their bytes.
-/

namespace BenchRig.Text

section Order

variable {a b : UInt8} {xs ys : List UInt8}

/-- A smaller first byte decides, and an equal one leaves it to the others. -/
theorem cons_lt_cons_of_le (hle : a.toNat ≤ b.toNat) (h : a.toNat = b.toNat → xs < ys) :
    a :: xs < b :: ys := by
  rw [List.cons_lt_cons_iff, UInt8.lt_iff_toNat_lt, ← UInt8.toNat_inj]
  rcases Nat.lt_or_eq_of_le hle with hlt | heq
  · exact .inl hlt
  · exact .inr ⟨heq, h heq⟩

/-- The bytes of the smaller of two characters are smaller, whatever follows. -/
theorem Bytes.append_lt {n m : Nat} (h : Bytes n xs) (h' : Bytes m ys) (hlt : n < m)
    (rest rest' : List UInt8) : xs ++ rest < ys ++ rest' := by
  cases h with
  | one ha hhigh =>
    cases h' <;> exact cons_lt_cons_of_le (by omega) fun _ => by omega
  | two ha hb hlow hhigh =>
    cases h' with
    | one => omega
    | two =>
      exact cons_lt_cons_of_le (by omega) fun _ => cons_lt_cons_of_le (by omega) fun _ => by omega
    | three => exact cons_lt_cons_of_le (by omega) fun _ => by omega
    | four => exact cons_lt_cons_of_le (by omega) fun _ => by omega
  | three ha hb hc hlow hhigh =>
    cases h' with
    | one => omega
    | two => omega
    | three =>
      exact cons_lt_cons_of_le (by omega) fun _ => cons_lt_cons_of_le (by omega) fun _ =>
        cons_lt_cons_of_le (by omega) fun _ => by omega
    | four => exact cons_lt_cons_of_le (by omega) fun _ => by omega
  | four ha hb hc hd hlow =>
    cases h' with
    | four =>
      exact cons_lt_cons_of_le (by omega) fun _ => cons_lt_cons_of_le (by omega) fun _ =>
        cons_lt_cons_of_le (by omega) fun _ => cons_lt_cons_of_le (by omega) fun _ => by omega
    | _ => omega

end Order

theorem utf8_lt_of_lt {cs ds : List Char} (h : cs < ds) :
    cs.flatMap String.utf8EncodeChar < ds.flatMap String.utf8EncodeChar := by
  induction cs generalizing ds with
  | nil =>
    cases ds with
    | nil => exact absurd h (List.lt_irrefl _)
    | cons d ds =>
      obtain ⟨a, tail, hbytes, -⟩ := decodeOne_utf8EncodeChar d []
      rw [List.flatMap_nil, List.flatMap_cons, hbytes]
      exact List.nil_lt_cons _ _
  | cons c cs ih =>
    cases ds with
    | nil => cases h
    | cons d ds =>
      rw [List.flatMap_cons, List.flatMap_cons]
      rcases List.cons_lt_cons_iff.mp h with hlt | ⟨rfl, hlt⟩
      · exact (bytes_utf8EncodeChar c).append_lt (bytes_utf8EncodeChar d) hlt _ _
      · exact List.append_left_lt (ih hlt)

/-- Texts are ordered as their bytes are. -/
theorem encode_lt_iff {s t : String} : encode s < encode t ↔ s < t := by
  refine ⟨fun h => ?_, utf8_lt_of_lt⟩
  refine Classical.byContradiction fun hge => ?_
  by_cases hgt : t < s
  · exact List.lt_asymm h (utf8_lt_of_lt hgt)
  · obtain rfl := String.le_antisymm hgt hge
    exact List.lt_irrefl _ h

theorem encode_le_iff {s t : String} : encode s ≤ encode t ↔ s ≤ t :=
  not_congr encode_lt_iff

end BenchRig.Text
