import BenchRig.Text.Upper
import Mathlib.Data.List.Chain
import Mathlib.Data.List.Forall2
import Mathlib.Tactic.SplitIfs

/-!
# Words of capitals as upper case

Some characters outside ASCII have letters of ASCII as their upper case. Most of them bring an S, or
an F together with another letter. A word without either is the upper case of exactly those texts
that spell it letter by letter, in small letters or capitals, where a dotless i is as good as an I.
-/

namespace BenchRig.Text

variable {c d : Char} {cs ds : List Char} {s word : String}

/-- The characters are the same, up to the case of the letters A to Z. -/
def SameLetter (c d : Char) : Prop := c.toLower = d.toLower

/-- The text is the word, up to the case of the letters A to Z. -/
def SameLetters (s word : String) : Prop := List.Forall₂ SameLetter s.toList word.toList

/-- The character is as good as the capital: the same letter, or a dotless i for an I. -/
def StandsFor (c d : Char) : Prop := SameLetter c d ∨ c = 'ı' ∧ d = 'I'

/-- The text is the word, up to the case of the letters A to Z and to the dot of an i. -/
def Spells (s word : String) : Prop := List.Forall₂ StandsFor s.toList word.toList

/-- A word of capitals in which no letter can come of a long s, a sharp s or a ligature. -/
structure Plain (ds : List Char) : Prop where
  capitals : ds.all Char.isUpper
  notMem_S : 'S' ∉ ds
  unjoined : ds.IsChain fun a b => a = 'F' → b ∉ ['F', 'I', 'L']

/-! ## Characters -/

theorem toNat_toLower (c : Char) :
    c.toLower.toNat = if 65 ≤ c.toNat ∧ c.toNat ≤ 90 then c.toNat + 32 else c.toNat := by
  delta Char.toLower
  simp only [ge_iff_le, UInt32.le_iff_toNat_le, Char.toNat_val, Char.reduceToNat]
  split_ifs with h
  · rw [Char.toNat_mk, UInt32.toNat_add, Char.toNat_val]
    exact Nat.mod_eq_of_lt (by simp; omega)
  · rfl

theorem toNat_toUpper (c : Char) :
    c.toUpper.toNat = if 97 ≤ c.toNat ∧ c.toNat ≤ 122 then c.toNat - 32 else c.toNat := by
  delta Char.toUpper
  simp only [UInt32.le_iff_toNat_le, Char.toNat_val, Char.reduceToNat]
  split_ifs with h
  · rw [Char.toNat_mk, UInt32.toNat_add, Char.toNat_val]
    simp
    omega
  · rfl

theorem toNat_of_isUpper (hd : d.isUpper) : 65 ≤ d.toNat ∧ d.toNat ≤ 90 := by
  delta Char.isUpper at hd
  simpa [UInt32.le_iff_toNat_le] using hd

theorem sameLetter_iff (hd : d.isUpper) : SameLetter c d ↔ c.toUpper = d := by
  have hcapital := toNat_of_isUpper hd
  rw [SameLetter, ← Char.toNat_inj, ← Char.toNat_inj, toNat_toLower, toNat_toLower, toNat_toUpper]
  split_ifs <;> omega

theorem SameLetter.isAlpha (h : SameLetter c d) (hd : d.isUpper) : c.isAlpha := by
  have hcapital := toNat_of_isUpper hd
  rw [← (sameLetter_iff hd).mp h, toNat_toUpper] at hcapital
  have hletter : c.isAlpha ↔ 65 ≤ c.toNat ∧ c.toNat ≤ 90 ∨ 97 ≤ c.toNat ∧ c.toNat ≤ 122 := by
    delta Char.isAlpha Char.isUpper Char.isLower
    simp [UInt32.le_iff_toNat_le]
  rw [hletter]
  split_ifs at hcapital <;> omega

theorem not_sameLetter (hc : c.isAlpha = false) (hd : d.isUpper) : ¬SameLetter c d := by
  intro h
  rw [h.isAlpha hd] at hc
  cases hc

/-- What comes of one character alone, S apart. -/
theorem upperAscii_eq_singleton_iff (hd : d.isUpper) (hS : d ≠ 'S') :
    upperAscii c = [d] ↔ StandsFor c d := by
  by_cases hdotless : c = 'ı'
  · subst hdotless
    have hforeign : ¬SameLetter 'ı' d := not_sameLetter (by decide) hd
    simp [upperAscii, StandsFor, hforeign, eq_comm]
  · have hletter : StandsFor c d ↔ SameLetter c d := by simp [StandsFor, hdotless]
    rw [hletter]
    unfold upperAscii
    split
    case h_1 => exact absurd rfl hdotless
    case h_11 => rw [sameLetter_iff hd, List.singleton_inj]
    all_goals simp [not_sameLetter, hd, hS.symm]

/-- An upper case of more than one letter begins with S or with an F that another letter joins. -/
theorem upperAscii_cases (c : Char) :
    (∃ d, upperAscii c = [d]) ∨ (∃ rest, upperAscii c = 'S' :: rest) ∨
      ∃ d ∈ ['F', 'I', 'L'], ∃ rest, upperAscii c = 'F' :: d :: rest := by
  unfold upperAscii
  split <;> simp

/-! ## Words -/

theorem Plain.tail (h : Plain (d :: ds)) : Plain ds where
  capitals := List.all_eq_true.mpr fun e he =>
    List.all_eq_true.mp h.capitals e (List.mem_cons_of_mem d he)
  notMem_S he := h.notMem_S (List.mem_cons_of_mem d he)
  unjoined := h.unjoined.tail

theorem Plain.ne_S (h : Plain (d :: ds)) : d ≠ 'S' := fun hd => h.notMem_S (hd ▸ List.mem_cons_self)

theorem Plain.isUpper (h : Plain (d :: ds)) : d.isUpper :=
  List.all_eq_true.mp h.capitals d List.mem_cons_self

/-- By induction on the text: a character whose upper case is longer than one letter has no place in
a plain word, and all others stand for one letter each. -/
theorem flatMap_upperAscii_eq_iff (h : Plain ds) :
    cs.flatMap upperAscii = ds ↔ List.Forall₂ StandsFor cs ds := by
  induction cs generalizing ds with
  | nil => rw [List.flatMap_nil, List.forall₂_nil_left_iff, eq_comm]
  | cons c cs ih =>
    rw [List.flatMap_cons]
    constructor
    · intro hcs
      rcases upperAscii_cases c with ⟨d, hc⟩ | ⟨rest, hc⟩ | ⟨d, hd, rest, hc⟩
      · rw [hc, List.singleton_append] at hcs
        subst hcs
        have hstands := (upperAscii_eq_singleton_iff h.isUpper h.ne_S).mp hc
        exact .cons hstands ((ih h.tail).mp rfl)
      · rw [hc, List.cons_append] at hcs
        subst hcs
        exact absurd rfl h.ne_S
      · rw [hc, List.cons_append, List.cons_append] at hcs
        subst hcs
        exact absurd hd (h.unjoined.rel rfl)
    · intro hcs
      cases hcs with
      | cons hstands hrest =>
        have hc := (upperAscii_eq_singleton_iff h.isUpper h.ne_S).mpr hstands
        rw [hc, (ih h.tail).mpr hrest, List.singleton_append]

/-- A plain word is the upper case of the texts that spell it. -/
theorem upper_eq_iff (h : Plain word.toList) : upper s = word ↔ Spells s word := by
  rw [upper, Spells, ← flatMap_upperAscii_eq_iff h, ← String.toList_inj, String.toList_ofList]

theorem SameLetters.spells (h : SameLetters s word) : Spells s word := h.imp fun _ _ => Or.inl

/-- What holds of every character that matches a capital holds throughout a text that matches a
word. -/
theorem Plain.forall_of_forall₂ {R : Char → Char → Prop} {P : Char → Prop} (hds : Plain ds)
    (h : List.Forall₂ R cs ds) (hP : ∀ c d, d.isUpper → R c d → P c) : ∀ c ∈ cs, P c := by
  induction h with
  | nil => exact List.forall_mem_nil P
  | cons hr _ ih => exact List.forall_mem_cons.mpr ⟨hP _ _ hds.isUpper hr, ih hds.tail⟩

theorem SameLetters.letters (h : SameLetters s word) (hword : Plain word.toList) :
    ∀ c ∈ s.toList, c.isAlpha :=
  hword.forall_of_forall₂ h fun _ _ hd hr => hr.isAlpha hd

/-- Nothing but letters and the dotless i can spell a word of capitals. -/
theorem Spells.letters (h : Spells s word) (hword : Plain word.toList) :
    ∀ c ∈ s.toList, c.isAlpha ∨ c = 'ı' :=
  hword.forall_of_forall₂ h fun _ _ hd hr => hr.imp (fun hr => hr.isAlpha hd) And.left

end BenchRig.Text
