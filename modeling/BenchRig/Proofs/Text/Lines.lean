import BenchRig.Text.Lines

/-!
# Splitting what was joined

Lines that hold no newline and do not end in a carriage return come back when a newline is put behind
each of them and the whole is split.
-/

namespace BenchRig.Text

variable {line : List Char} {lines : List (List Char)}

/-- A line that a newline ends where it ends. -/
def Whole (line : List Char) : Prop := '\n' ∉ line ∧ line.getLast? ≠ some '\r'

instance : DecidablePred Whole := fun _ => inferInstanceAs (Decidable (_ ∧ _))

theorem dropReturn_of_whole (h : Whole line) : dropReturn line = line := by
  unfold dropReturn
  split
  · exact absurd ‹_› h.2
  · rfl

theorem linesOnto_append (h : '\n' ∉ line) (seen rest : List Char) :
    linesOnto seen (line ++ rest) = linesOnto (seen ++ line) rest := by
  induction line generalizing seen with
  | nil => rw [List.nil_append, List.append_nil]
  | cons c line ih =>
    rw [List.mem_cons, not_or] at h
    have hc : c ≠ '\n' := fun heq => h.1 heq.symm
    rw [List.cons_append, linesOnto, ih h.2, List.append_assoc, List.singleton_append]
    exact hc

theorem linesOnto_flatMap (h : ∀ line ∈ lines, Whole line) :
    linesOnto [] (lines.flatMap (· ++ ['\n'])) = lines := by
  induction lines with
  | nil => rfl
  | cons line lines ih =>
    have hline := h line List.mem_cons_self
    have hlines := ih fun other hmem => h other (List.mem_cons_of_mem _ hmem)
    rw [List.flatMap_cons, List.append_assoc, List.singleton_append, linesOnto_append hline.1,
      List.nil_append, linesOnto, dropReturn_of_whole hline, hlines]

end BenchRig.Text
