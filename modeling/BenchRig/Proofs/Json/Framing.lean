import BenchRig.Proofs.Decimal.Padded
import BenchRig.Proofs.Json.Scan

/-!
# The text of a value stays on its line

The text of a value without doubles holds no character below a blank, and so no line break.
-/

namespace BenchRig.Json

/-- A text without control characters below a blank. -/
def Unbroken (text : List Char) : Prop := ∀ c ∈ text, ' ' ≤ c

instance (text : List Char) : Decidable (Unbroken text) := List.decidableBAll (' ' ≤ ·) text

theorem unbroken_append {p q : List Char} (hp : Unbroken p) (hq : Unbroken q) :
    Unbroken (p ++ q) := by
  intro c hc
  rcases List.mem_append.mp hc with h | h
  · exact hp c h
  · exact hq c h

theorem unbroken_cons {c : Char} {text : List Char} (hc : ' ' ≤ c) (h : Unbroken text) :
    Unbroken (c :: text) :=
  List.forall_mem_cons.mpr ⟨hc, h⟩

theorem unbroken_hexDigit {d : Nat} (h : d < 16) : ' ' ≤ hexDigit d := by
  have all : ∀ d < 16, ' ' ≤ hexDigit d := by decide
  exact all d h

theorem unbroken_escapeChar (c : Char) : Unbroken (escapeChar c) := by
  -- All cases but the last are fixed escapes.
  unfold escapeChar
  split
  case h_8 =>
    split
    · next hcontrol =>
      have hsmall : c.toNat < 32 := hcontrol
      have hhigh := unbroken_hexDigit (d := c.toNat / 16) (by omega)
      have hlow := unbroken_hexDigit (d := c.toNat % 16) (by omega)
      have hfront : Unbroken ['\\', 'u', '0', '0'] := by decide
      exact unbroken_append hfront (unbroken_cons hhigh (unbroken_cons hlow (by decide)))
    · next hshown => exact unbroken_cons (Char.not_lt.mp hshown) (by decide)
  all_goals decide

theorem unbroken_writeString (s : String) : Unbroken (writeString s) := by
  have hquote : ' ' ≤ '"' := by decide
  have hescaped : Unbroken (s.toList.flatMap escapeChar) := by
    intro c hc
    obtain ⟨d, -, hd⟩ := List.mem_flatMap.mp hc
    exact unbroken_escapeChar d c hd
  exact unbroken_cons hquote (unbroken_append hescaped (unbroken_cons hquote (by decide)))

theorem unbroken_numeral (n : Nat) : Unbroken (Decimal.numeral n) := by
  have hdigit : ∀ d < 10, ' ' ≤ Decimal.digit d := by decide
  intro c hc
  rw [Decimal.numeral_eq_map] at hc
  obtain ⟨d, hd, rfl⟩ := List.mem_map.mp hc
  exact hdigit d (Decimal.digitsOf_lt hd)

theorem unbroken_integerNumeral (n : Int) : Unbroken (Decimal.integerNumeral n) := by
  cases n with
  | ofNat n => exact unbroken_numeral n
  | negSucc n => exact unbroken_cons (by decide) (unbroken_numeral (n + 1))

theorem unbroken_writeItems {vs : List Value} (h : ∀ v ∈ vs, Unbroken v.write) :
    Unbroken (writeItems vs) := by
  induction vs with
  | nil => decide
  | cons v vs ih =>
    obtain ⟨hv, hvs⟩ := List.forall_mem_cons.mp h
    exact unbroken_cons (by decide) (unbroken_append hv (ih hvs))

/-- A member: its key, a colon and its value. -/
theorem unbroken_member (k : String) {v : Value} {rest : List Char} (hv : Unbroken v.write)
    (hrest : Unbroken rest) : Unbroken (writeString k ++ ':' :: (v.write ++ rest)) :=
  unbroken_append (unbroken_writeString k)
    (unbroken_cons (by decide) (unbroken_append hv hrest))

theorem unbroken_writeMembers {ms : List (String × Value)} (h : ∀ m ∈ ms, Unbroken m.2.write) :
    Unbroken (writeMembers ms) := by
  induction ms with
  | nil => decide
  | cons m ms ih =>
    obtain ⟨hm, hms⟩ := List.forall_mem_cons.mp h
    exact unbroken_cons (by decide) (unbroken_member m.1 hm (ih hms))

theorem Value.FloatFree.unbroken {v : Value} (h : v.FloatFree) : Unbroken v.write := by
  induction h with
  | null => decide
  | bool b => cases b <;> decide
  | integer n => exact unbroken_integerNumeral n.val
  | string s => exact unbroken_writeString s
  | @array items _ ih =>
    cases items with
    | nil => decide
    | cons v vs =>
      obtain ⟨hv, hvs⟩ := List.forall_mem_cons.mp ih
      exact unbroken_cons (by decide) (unbroken_append hv (unbroken_writeItems hvs))
  | @object members _ ih =>
    cases members with
    | nil => decide
    | cons m ms =>
      obtain ⟨hm, hms⟩ := List.forall_mem_cons.mp ih
      exact unbroken_cons (by decide) (unbroken_member m.1 hm (unbroken_writeMembers hms))

/-! ## What is written as itself -/

theorem mem_writeString {c : Char} {s : String} (hc : c ∈ s.toList) (hplain : escapeChar c = [c]) :
    c ∈ writeString s := by
  have hescaped : c ∈ s.toList.flatMap escapeChar :=
    List.mem_flatMap.mpr ⟨c, hc, hplain ▸ List.mem_singleton_self c⟩
  exact List.mem_cons_of_mem _ (List.mem_append_left _ hescaped)

theorem mem_writeMembers {c : Char} {m : String × Value} {ms : List (String × Value)}
    (hm : m ∈ ms) (hc : c ∈ m.2.write) : c ∈ writeMembers ms := by
  induction ms with
  | nil => cases hm
  | cons n ms ih =>
    rw [writeMembers, List.mem_cons, List.mem_append, List.mem_cons, List.mem_append]
    rcases List.mem_cons.mp hm with rfl | hm
    · exact .inr (.inr (.inr (.inl hc)))
    · exact .inr (.inr (.inr (.inr (ih hm))))

/-- The text of a member's value is part of the text of the object. -/
theorem mem_write_object {c : Char} {m : String × Value} {ms : List (String × Value)}
    (hm : m ∈ ms) (hc : c ∈ m.2.write) : c ∈ (Value.object ms).write := by
  cases ms with
  | nil => cases hm
  | cons n ms =>
    rw [Value.write, List.mem_cons, List.mem_append, List.mem_cons, List.mem_append]
    rcases List.mem_cons.mp hm with rfl | hm
    · exact .inr (.inr (.inr (.inl hc)))
    · exact .inr (.inr (.inr (.inr (mem_writeMembers hm hc))))

end BenchRig.Json
