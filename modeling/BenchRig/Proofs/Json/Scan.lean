import BenchRig.Proofs.Json.Numeral
import BenchRig.Proofs.Json.Text

/-!
# The draft of a written value

The text of a value without doubles is read as a draft that says the same and has no flaw. The text
may stand in front of anything that does not go on a numeral. The reader is given more steps than
twice the length of the text, and needs no more for any part of it.
-/

namespace BenchRig.Json

/-- A value in which no double occurs. -/
inductive Value.FloatFree : Value → Prop where
  | null : FloatFree .null
  | bool (b : Bool) : FloatFree (.bool b)
  | integer (n : Integer) : FloatFree (.integer n)
  | string (s : String) : FloatFree (.string s)
  | array {items : List Value} (h : ∀ v ∈ items, FloatFree v) : FloatFree (.array items)
  | object {members : List (String × Value)} (h : ∀ m ∈ members, FloatFree m.2) :
    FloatFree (.object members)

mutual

/-- The draft that says the same as a value. -/
def Value.draft : Value → Draft
  | .null => .null
  | .bool b => .bool b
  | .integer n => .number (.ok (.integer n))
  | .double x => .number (.ok (.double x))
  | .string s => .string (.ok s)
  | .array items => .array (draftItems items) none
  | .object members => .object (draftMembers members) none

/-- The drafts of an array's items. -/
def draftItems : List Value → List Draft
  | [] => []
  | v :: vs => v.draft :: draftItems vs

/-- The drafts of an object's members. -/
def draftMembers : List (String × Value) → List (Except SyntaxFault String × Draft)
  | [] => []
  | (k, v) :: ms => (.ok k, v.draft) :: draftMembers ms

end

/-- The text of a value is read as its draft, whatever follows it. -/
def Value.Scans (v : Value) : Prop :=
  ∀ fuel rest, EndsNumeral rest → 2 * v.write.length ≤ fuel →
    scanValue fuel (v.write ++ rest) = (v.draft, some rest)

/-! ## What a text starts with -/

/-- A text that starts with something that is no blank and closes no array. -/
def Opens (text : List Char) : Prop :=
  ∃ c cs, text = c :: cs ∧ isBlank c = false ∧ c ≠ ']'

theorem Opens.append {text : List Char} (h : Opens text) (rest : List Char) :
    Opens (text ++ rest) := by
  obtain ⟨c, cs, rfl, hc⟩ := h
  exact ⟨c, cs ++ rest, rfl, hc⟩

theorem skipBlanks_cons {c : Char} (h : isBlank c = false) (cs : List Char) :
    skipBlanks (c :: cs) = c :: cs := by
  rw [skipBlanks, List.dropWhile_cons, h]
  rfl

theorem Opens.skipBlanks {text : List Char} (h : Opens text) : skipBlanks text = text := by
  obtain ⟨c, cs, rfl, hc, -⟩ := h
  exact skipBlanks_cons hc cs

theorem opens_numeral (n : Nat) : Opens (Decimal.numeral n) := by
  obtain ⟨d, hd, cs, hcs⟩ := exists_numeralOnto_eq_cons n []
  have hdigit : ∀ d < 10, isBlank (Decimal.digit d) = false ∧ Decimal.digit d ≠ ']' := by decide
  exact ⟨_, cs, hcs, hdigit d hd⟩

theorem opens_integerNumeral (n : Int) : Opens (Decimal.integerNumeral n) := by
  cases n with
  | ofNat n => exact opens_numeral n
  | negSucc n => exact ⟨_, _, rfl, by decide⟩

theorem Value.FloatFree.opens {v : Value} (h : v.FloatFree) : Opens v.write := by
  cases h with
  | null => exact ⟨_, _, rfl, by decide⟩
  | bool b => cases b <;> exact ⟨_, _, rfl, by decide⟩
  | integer n => exact opens_integerNumeral n.val
  | string s => exact ⟨_, _, rfl, by decide⟩
  | @array items h => cases items <;> exact ⟨_, _, rfl, by decide⟩
  | @object members h => cases members <;> exact ⟨_, _, rfl, by decide⟩

/-! ## Leaves -/

theorem Value.Scans.of_step {v : Value} (hopens : Opens v.write)
    (h : ∀ fuel rest, EndsNumeral rest →
      scanValue (fuel + 1) (v.write ++ rest) = (v.draft, some rest)) :
    v.Scans := by
  intro fuel rest hrest hfuel
  obtain ⟨c, cs, hwrite, -⟩ := hopens
  have hlength : v.write.length = cs.length + 1 := by rw [hwrite, List.length_cons]
  obtain ⟨fuel, rfl⟩ : ∃ f, fuel = f + 1 := ⟨fuel - 1, by omega⟩
  exact h fuel rest hrest

theorem scanValue_digit {d : Nat} (hd : d < 10) (fuel : Nat) (cs : List Char) :
    scanValue (fuel + 1) (Decimal.digit d :: cs) = scanNumber false (Decimal.digit d :: cs) := by
  have hothers : ∀ d < 10, isBlank (Decimal.digit d) = false ∧
      Decimal.digit d ∉ ['n', 't', 'f', '-', '"', '[', '{'] := by decide
  obtain ⟨hblank, hother⟩ := hothers d hd
  have hdigit : (Decimal.digitValue? (Decimal.digit d)).isSome = true := by
    rw [digitValue?_digit hd]
    rfl
  rw [scanValue, skipBlanks_cons hblank]
  simp_all

theorem scans_integer (n : Integer) : (Value.integer n).Scans := by
  refine .of_step (opens_integerNumeral n.val) ?_
  intro fuel rest hrest
  obtain ⟨i, hi⟩ := n
  cases i with
  | ofNat i =>
    obtain ⟨d, hd, cs, hcs⟩ := exists_numeralOnto_eq_cons i []
    have hwrite : (Value.integer ⟨.ofNat i, hi⟩).write = Decimal.numeral i := rfl
    have hvalue := Numeral.value_digitsOf false (n := i) (i := ⟨.ofNat i, hi⟩) rfl (by simp)
    calc scanValue (fuel + 1) ((Value.integer ⟨.ofNat i, hi⟩).write ++ rest)
        = scanNumber false (Decimal.numeral i ++ rest) := by
          rw [hwrite, Decimal.numeral, hcs]
          exact scanValue_digit hd fuel (cs ++ rest)
      _ = _ := by
          simp only [scanNumber, readNumeral_numeral false i hrest, hvalue, Value.draft]
  | negSucc i =>
    have hwrite : (Value.integer ⟨.negSucc i, hi⟩).write = '-' :: Decimal.numeral (i + 1) := rfl
    have hvalue := Numeral.value_digitsOf true (n := i + 1) (i := ⟨.negSucc i, hi⟩) rfl (by simp)
    calc scanValue (fuel + 1) ((Value.integer ⟨.negSucc i, hi⟩).write ++ rest)
        = scanNumber true (Decimal.numeral (i + 1) ++ rest) := by
          rw [hwrite, List.cons_append, scanValue, skipBlanks_cons (by decide)]
          rfl
      _ = _ := by
          simp only [scanNumber, readNumeral_numeral true (i + 1) hrest, hvalue, Value.draft]

theorem scans_string (s : String) : (Value.string s).Scans := by
  refine .of_step ⟨_, _, rfl, by decide⟩ ?_
  intro fuel rest _
  have hwrite : (Value.string s).write ++ rest =
      '"' :: (s.toList.flatMap escapeChar ++ '"' :: rest) := by
    simp [Value.write, writeString]
  rw [hwrite, scanValue, skipBlanks_cons (by decide)]
  simp only [scanString_flatMap, Value.draft]

/-! ## Arrays and objects -/

theorem endsNumeral_writeItems (vs : List Value) (rest : List Char) :
    EndsNumeral (writeItems vs ++ rest) := by
  cases vs <;> exact endsNumeral_cons _ (by decide)

theorem endsNumeral_writeMembers (ms : List (String × Value)) (rest : List Char) :
    EndsNumeral (writeMembers ms ++ rest) := by
  cases ms <;> exact endsNumeral_cons _ (by decide)

theorem scanItems_last {fuel : Nat} {cs rest : List Char} {d : Draft}
    (h : scanValue fuel cs = (d, some (']' :: rest))) :
    scanItems (fuel + 1) cs = ([d], none, some rest) := by
  rw [scanItems, h]
  rfl

theorem scanItems_more {fuel : Nat} {cs rest : List Char} {d : Draft}
    (h : scanValue fuel cs = (d, some (',' :: rest))) (hopens : Opens rest) :
    scanItems (fuel + 1) cs = (d :: (scanItems fuel rest).1, (scanItems fuel rest).2) := by
  have hcomma : isBlank ',' = false := by decide
  have hblanks := hopens.skipBlanks
  obtain ⟨c, cs, rfl, -, hclose⟩ := hopens
  rw [scanItems, h]
  simp only [skipBlanks_cons hcomma, hblanks]
  simp [hclose]

theorem scanMembers_last {fuel : Nat} {cs rest : List Char} {d : Draft} (k : String)
    (h : scanValue fuel cs = (d, some ('}' :: rest))) :
    scanMembers (fuel + 1) (k.toList.flatMap escapeChar ++ '"' :: ':' :: cs) =
      ([(.ok k, d)], none, some rest) := by
  have hcolon : isBlank ':' = false := by decide
  rw [scanMembers, scanString_flatMap]
  simp only [skipBlanks_cons hcolon, h]
  rfl

theorem scanMembers_more {fuel : Nat} {cs rest : List Char} {d : Draft} (k : String)
    (h : scanValue fuel cs = (d, some (',' :: '"' :: rest))) :
    scanMembers (fuel + 1) (k.toList.flatMap escapeChar ++ '"' :: ':' :: cs) =
      ((.ok k, d) :: (scanMembers fuel rest).1, (scanMembers fuel rest).2) := by
  have hcolon : isBlank ':' = false := by decide
  rw [scanMembers, scanString_flatMap]
  simp only [skipBlanks_cons hcolon, h]
  rfl

theorem scanValue_bracket {fuel : Nat} {cs : List Char} (hopens : Opens cs) :
    scanValue (fuel + 1) ('[' :: cs) =
      (.array (scanItems fuel cs).1 (scanItems fuel cs).2.1, (scanItems fuel cs).2.2) := by
  have hbracket : isBlank '[' = false := by decide
  have hblanks := hopens.skipBlanks
  obtain ⟨c, cs, rfl, -, hclose⟩ := hopens
  rw [scanValue, skipBlanks_cons hbracket]
  simp only [hblanks]
  simp [hclose]

theorem scanValue_brace (fuel : Nat) (cs : List Char) :
    scanValue (fuel + 1) ('{' :: '"' :: cs) =
      (.object (scanMembers fuel cs).1 (scanMembers fuel cs).2.1, (scanMembers fuel cs).2.2) := by
  rfl

theorem scanItems_write (vs : List Value) (hvs : ∀ w ∈ vs, w.Scans ∧ Opens w.write) {v : Value}
    (hv : v.Scans) {fuel : Nat} (rest : List Char)
    (hfuel : 2 * (v.write ++ writeItems vs).length < fuel) :
    scanItems fuel (v.write ++ (writeItems vs ++ rest)) =
      (v.draft :: draftItems vs, none, some rest) := by
  induction vs generalizing v fuel with
  | nil =>
    rw [List.length_append] at hfuel
    obtain ⟨fuel, rfl⟩ : ∃ f, fuel = f + 1 := ⟨fuel - 1, by omega⟩
    have hitem := hv fuel _ (endsNumeral_writeItems [] rest) (by omega)
    exact scanItems_last hitem
  | cons w vs ih =>
    obtain ⟨hw, hopens⟩ := hvs w List.mem_cons_self
    rw [writeItems, List.length_append, List.length_cons] at hfuel
    obtain ⟨fuel, rfl⟩ : ∃ f, fuel = f + 1 := ⟨fuel - 1, by omega⟩
    have hitem := hv fuel _ (endsNumeral_writeItems (w :: vs) rest) (by omega)
    have hmore : scanItems fuel (w.write ++ (writeItems vs ++ rest)) =
        (w.draft :: draftItems vs, none, some rest) :=
      ih (fun u hu => hvs u (List.mem_cons_of_mem _ hu)) hw (by omega)
    rw [writeItems, List.cons_append, List.append_assoc] at hitem ⊢
    rw [scanItems_more hitem (hopens.append _), hmore, draftItems]

theorem writeString_append (s : String) (rest : List Char) :
    writeString s ++ rest = '"' :: (s.toList.flatMap escapeChar ++ '"' :: rest) := by
  simp [writeString]

theorem scanMembers_write (ms : List (String × Value)) (hms : ∀ m ∈ ms, m.2.Scans) (k : String)
    {v : Value} (hv : v.Scans) {fuel : Nat} (rest : List Char)
    (hfuel : 2 * (v.write ++ writeMembers ms).length < fuel) :
    scanMembers fuel
        (k.toList.flatMap escapeChar ++ '"' :: ':' :: (v.write ++ (writeMembers ms ++ rest))) =
      ((.ok k, v.draft) :: draftMembers ms, none, some rest) := by
  induction ms generalizing k v fuel with
  | nil =>
    rw [List.length_append] at hfuel
    obtain ⟨fuel, rfl⟩ : ∃ f, fuel = f + 1 := ⟨fuel - 1, by omega⟩
    have hvalue := hv fuel _ (endsNumeral_writeMembers [] rest) (by omega)
    exact scanMembers_last k hvalue
  | cons m ms ih =>
    obtain ⟨l, w⟩ := m
    have hw : w.Scans := hms _ List.mem_cons_self
    rw [writeMembers, List.length_append, List.length_cons, List.length_append,
      List.length_cons] at hfuel
    obtain ⟨fuel, rfl⟩ : ∃ f, fuel = f + 1 := ⟨fuel - 1, by omega⟩
    have hvalue := hv fuel _ (endsNumeral_writeMembers ((l, w) :: ms) rest) (by omega)
    have hmore : scanMembers fuel
        (l.toList.flatMap escapeChar ++ '"' :: ':' :: (w.write ++ (writeMembers ms ++ rest))) =
          ((.ok l, w.draft) :: draftMembers ms, none, some rest) :=
      ih (fun m hm => hms m (List.mem_cons_of_mem _ hm)) l hw (by omega)
    rw [writeMembers, List.cons_append, List.append_assoc, writeString_append, List.cons_append,
      List.append_assoc] at hvalue ⊢
    rw [scanMembers_more k hvalue, hmore, draftMembers]

/-! ## All values -/

theorem scans_array {items : List Value} (h : ∀ v ∈ items, v.Scans ∧ Opens v.write) :
    (Value.array items).Scans := by
  intro fuel rest _ hfuel
  cases items with
  | nil =>
    have hlength : (Value.array []).write.length = 2 := rfl
    obtain ⟨fuel, rfl⟩ : ∃ f, fuel = f + 1 := ⟨fuel - 1, by omega⟩
    rfl
  | cons v vs =>
    obtain ⟨hv, hopens⟩ := h v List.mem_cons_self
    rw [Value.write, List.length_cons] at hfuel
    obtain ⟨fuel, rfl⟩ : ∃ f, fuel = f + 1 := ⟨fuel - 1, by omega⟩
    have hitems : scanItems fuel (v.write ++ (writeItems vs ++ rest)) =
        (v.draft :: draftItems vs, none, some rest) :=
      scanItems_write vs (fun w hw => h w (List.mem_cons_of_mem _ hw)) hv rest (by omega)
    rw [Value.write, List.cons_append, List.append_assoc, scanValue_bracket (hopens.append _),
      hitems, Value.draft, draftItems]

theorem scans_object {members : List (String × Value)} (h : ∀ m ∈ members, m.2.Scans) :
    (Value.object members).Scans := by
  intro fuel rest _ hfuel
  cases members with
  | nil =>
    have hlength : (Value.object []).write.length = 2 := rfl
    obtain ⟨fuel, rfl⟩ : ∃ f, fuel = f + 1 := ⟨fuel - 1, by omega⟩
    rfl
  | cons m ms =>
    obtain ⟨k, v⟩ := m
    have hv : v.Scans := h (k, v) List.mem_cons_self
    rw [Value.write, List.length_cons, List.length_append, List.length_cons] at hfuel
    obtain ⟨fuel, rfl⟩ : ∃ f, fuel = f + 1 := ⟨fuel - 1, by omega⟩
    have hmembers : scanMembers fuel
        (k.toList.flatMap escapeChar ++ '"' :: ':' :: (v.write ++ (writeMembers ms ++ rest))) =
          ((.ok k, v.draft) :: draftMembers ms, none, some rest) :=
      scanMembers_write ms (fun m hm => h m (List.mem_cons_of_mem _ hm)) k hv rest (by omega)
    rw [Value.write, List.cons_append, List.append_assoc, writeString_append, List.cons_append,
      List.append_assoc, scanValue_brace, hmembers, Value.draft, draftMembers]

theorem Value.FloatFree.scans {v : Value} (h : v.FloatFree) : v.Scans := by
  induction h with
  | null => exact .of_step FloatFree.null.opens fun _ _ _ => rfl
  | bool b => cases b <;> exact .of_step (FloatFree.bool _).opens fun _ _ _ => rfl
  | integer n => exact scans_integer n
  | string s => exact scans_string s
  | array h ih => exact scans_array fun v hv => ⟨ih v hv, (h v hv).opens⟩
  | object h ih => exact scans_object ih

/-- The text of a value without doubles is read as its draft, and nothing is left. -/
theorem Value.FloatFree.ofChars_write {v : Value} (h : v.FloatFree) :
    Draft.ofChars v.write = (v.draft, some []) := by
  have hscan := h.scans (2 * v.write.length + 2) [] endsNumeral_nil (by omega)
  rwa [List.append_nil] at hscan

end BenchRig.Json
