import BenchRig.Log.Level
import BenchRig.Proofs.Text.Upper

/-!
# Words for levels

A level is read from its word, or from the long word for warnings, in any mixture of small letters
and capitals. Since the upper case of all of Unicode is taken, a dotless i passes for an I; no other
character passes for a letter.
-/

namespace BenchRig.Log

open Text (SameLetters Spells)

variable {s word : String} {l : Level}

namespace Level

/-- The word stands for the level: it is the level's own, or the long one for warnings. -/
def Names (word : String) (l : Level) : Prop := word = l.word ∨ word = "WARNING" ∧ l = warn

theorem Names.plain (h : Names word l) : Text.Plain word.toList := by
  obtain rfl | ⟨rfl, rfl⟩ := h
  · cases l <;> exact ⟨by decide, by decide, by decide⟩
  · exact ⟨by decide, by decide, by decide⟩

theorem ofWord?_eq_some_iff : ofWord? s = some l ↔ Names (Text.upper s) l := by
  constructor
  · intro h
    unfold ofWord? at h
    split at h
    case h_5 hlong =>
      cases h
      exact .inr ⟨hlong, rfl⟩
    case h_8 => cases h
    all_goals
      cases h
      exact .inl ‹_›
  · rintro (h | ⟨h, rfl⟩)
    · rw [ofWord?, h]
      cases l <;> rfl
    · rw [ofWord?, h]
      rfl

theorem ofWord?_eq_some_iff_spells : ofWord? s = some l ↔ ∃ word, Names word l ∧ Spells s word := by
  rw [ofWord?_eq_some_iff]
  constructor
  · intro h
    exact ⟨_, h, (Text.upper_eq_iff h.plain).mp rfl⟩
  · rintro ⟨word, h, hs⟩
    rwa [(Text.upper_eq_iff h.plain).mpr hs]

theorem ofWord_eq_ok_iff : ofWord s = .ok l ↔ ∃ word, Names word l ∧ Spells s word := by
  rw [← ofWord?_eq_some_iff_spells, ofWord]
  cases ofWord? s <;> simp

theorem ofWord_of_unspelled (h : ∀ word l, Names word l → ¬Spells s word) :
    ofWord s = .error ⟨.config, "Invalid log level: " ++ s⟩ := by
  have hnone : ofWord? s = none := by
    refine Option.eq_none_iff_forall_ne_some.mpr fun l hl => ?_
    obtain ⟨word, hword, hs⟩ := ofWord?_eq_some_iff_spells.mp hl
    exact h word l hword hs
  rw [ofWord, hnone]

/-- No character outside the words' alphabet is read, a blank at either end included. -/
theorem ofWord_of_foreign {c : Char} (hc : c ∈ s.toList) (halpha : c.isAlpha = false)
    (hdotless : c ≠ 'ı') : ofWord s = .error ⟨.config, "Invalid log level: " ++ s⟩ := by
  refine ofWord_of_unspelled fun word l hword hs => ?_
  obtain hletter | rfl := hs.letters hword.plain c hc
  · rw [halpha] at hletter
    cases hletter
  · exact hdotless rfl

end Level

/-- A text is read as a level exactly if it spells a word for that level, up to the case of its
letters and to the dot of an i. Any other text is refused, with the text in the message; one that
holds a character besides the letters A to Z and the dotless i is among these. A level's own word is
read in whatever mixture of cases. -/
theorem level_of_text (s : String) :
    (∀ l, Level.ofWord s = .ok l ↔ ∃ word, Level.Names word l ∧ Spells s word) ∧
      ((∀ word l, Level.Names word l → ¬Spells s word) →
        Level.ofWord s = .error ⟨.config, "Invalid log level: " ++ s⟩) ∧
      (∀ c ∈ s.toList, c.isAlpha = false → c ≠ 'ı' →
        Level.ofWord s = .error ⟨.config, "Invalid log level: " ++ s⟩) ∧
      ∀ l, SameLetters s l.word → Level.ofWord s = .ok l := by
  refine ⟨fun l => Level.ofWord_eq_ok_iff, Level.ofWord_of_unspelled,
    fun c => Level.ofWord_of_foreign, fun l h => ?_⟩
  exact Level.ofWord_eq_ok_iff.mpr ⟨l.word, .inl rfl, h.spells⟩

/-- A dotless i is no letter A to Z in either case, and yet a word with it is read. -/
theorem level_of_dotless :
    Level.ofWord "ınfo" = .ok .info ∧ ∀ word l, Level.Names word l → ¬SameLetters "ınfo" word := by
  refine ⟨by decide, fun word l hword hs => ?_⟩
  have hletter := hs.letters hword.plain 'ı' (by decide)
  revert hletter
  decide

end BenchRig.Log
