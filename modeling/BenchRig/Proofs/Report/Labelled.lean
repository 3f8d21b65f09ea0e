import BenchRig.Proofs.Decimal.Fixed
import BenchRig.Report.Line

/-!
# Reading a line of the report

A line is its label, a colon and a blank, a decimal, and a unit. The label may hold colons and
blanks of its own; what follows it holds no colon, so the last colon with a blank behind it ends the
label.
-/

namespace BenchRig.Report

open Decimal

/-- The parts in front of and behind the last colon that a blank follows. -/
def cutLast? : List Char → Option (List Char × List Char)
  | [] => none
  | c :: cs =>
    match cutLast? cs with
    | some (front, back) => some (c :: front, back)
    | none => if c = ':' ∧ cs.head? = some ' ' then some ([], cs.tail) else none

/-- The label of a line and what it stands for. -/
def cutLabel? (line : String) : Option (String × String) :=
  (cutLast? line.toList).map fun (label, value) => (String.ofList label, String.ofList value)

/-- A line is `label`, a colon and a blank, the decimal of `n` units of the last of `places` places,
and `unit`; cut at its last colon with a blank, it falls into the label and the rest. -/
def Shows (places : ℕ) (label unit line : String) (n : ℕ) : Prop :=
  ∃ cs, line = label ++ ": " ++ String.ofList cs ++ unit ∧ IsFixed places cs (n / 10 ^ places) ∧
    cutLabel? line = some (label, String.ofList cs ++ unit)

variable {places n m : ℕ} {label other unit line value : String} {x y : Float}

/-! ## Cutting -/

theorem cutLast?_eq_none {cs : List Char} (h : ':' ∉ cs) : cutLast? cs = none := by
  induction cs with
  | nil => rfl
  | cons c cs ih =>
    rw [List.mem_cons, not_or] at h
    rw [cutLast?, ih h.2]
    exact if_neg fun hc => h.1 hc.1.symm

theorem cutLast?_append {back : List Char} (h : ':' ∉ back) (front : List Char) :
    cutLast? (front ++ ':' :: ' ' :: back) = some (front, back) := by
  induction front with
  | nil =>
    have hblank : cutLast? (' ' :: back) = none := cutLast?_eq_none (by simp [h])
    rw [List.nil_append, cutLast?, hblank]
    exact if_pos ⟨rfl, rfl⟩
  | cons c front ih => rw [List.cons_append, cutLast?, ih]

theorem cutLabel?_labelled (h : ':' ∉ value.toList) (label : String) :
    cutLabel? (labelled label value) = some (label, value) := by
  have hparts : (labelled label value).toList = label.toList ++ ':' :: ' ' :: value.toList := by
    simp [labelled]
  rw [cutLabel?, hparts, cutLast?_append h]
  simp

/-! ## Numbers behind labels -/

/-- A line shows one number only, whatever label it is looked for behind. -/
theorem Shows.unique (hn : Shows places label unit line n) (hm : Shows places other unit line m) :
    n = m := by
  obtain ⟨cs, -, hfixed, hcut⟩ := hn
  obtain ⟨cs', -, hfixed', hcut'⟩ := hm
  rw [hcut] at hcut'
  have hvalue := (Prod.mk.inj (Option.some.inj hcut')).2
  have htext : String.ofList cs = String.ofList cs' := by simpa using hvalue
  obtain rfl := String.ofList_injective htext
  have hunits := hfixed.unique hfixed'
  field_simp at hunits
  exact_mod_cast hunits

theorem shows_fixed (hplaces : 0 < places) (hunit : ':' ∉ unit.toList) (hx : Unsigned x)
    (label : String) :
    ∃ n, Shows places label unit (labelled label (fixed places x ++ unit)) n ∧
      Nearest (1 / 10 ^ places) (exact x) n := by
  obtain ⟨n, htext, hnearest⟩ := fixed_of_unsigned hx places
  have hfixed := isFixed_fixedNumeral hplaces n
  have hcolon : ':' ∉ fixedNumeral places n := hfixed.notMem (by decide) (by decide)
  refine ⟨n, ⟨fixedNumeral places n, ?_, hfixed, ?_⟩, hnearest⟩
  · simp only [htext, labelled, String.append_assoc]
  · rw [htext]
    exact cutLabel?_labelled (by simp [hcolon, hunit]) label

theorem shows_mono (hplaces : 0 < places) (hunit : ':' ∉ unit.toList) (hx : Unsigned x)
    (hy : Unsigned y) (hle : exact x ≤ exact y)
    (hn : Shows places label unit (labelled label (fixed places x ++ unit)) n)
    (hm : Shows places other unit (labelled other (fixed places y ++ unit)) m) : n ≤ m := by
  obtain ⟨n', hn', hnearest⟩ := shows_fixed hplaces hunit hx label
  obtain ⟨m', hm', hnearest'⟩ := shows_fixed hplaces hunit hy other
  rw [hn.unique hn', hm.unique hm']
  exact hnearest.mono (by positivity) hnearest' hle

end BenchRig.Report
