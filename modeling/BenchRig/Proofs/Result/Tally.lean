import BenchRig.Result.Tally

/-!
# What tallies count

A tally counts every outcome of every worker once, as a success or as a failure.
-/

namespace BenchRig

/-- An outcome is a success, or it has an error. -/
theorem Outcome.error?_eq_none_iff {o : Outcome} : o.error? = none ↔ o.isSuccess := by
  cases o <;> simp [Outcome.error?, Outcome.isSuccess]

namespace Tally

/-- The outcomes of a run, one worker after another, are tallied one after another. -/
theorem ofResults_eq_foldl (results : List WorkerResult) :
    ofResults results = (results.flatMap (·.outcomes)).foldl add {} := by
  rw [ofResults, List.foldl_flatMap]

theorem add_of_isSuccess {o : Outcome} (h : o.isSuccess) (t : Tally) :
    t.add o = { t with succeeded := t.succeeded + 1 } := by
  simp [add, Outcome.error?_eq_none_iff.mpr h]

theorem failed_add {o : Outcome} (h : ¬ o.isSuccess) (t : Tally) :
    (t.add o).succeeded = t.succeeded ∧ (t.add o).failed = t.failed + 1 := by
  cases he : o.error? with
  | none => exact absurd (Outcome.error?_eq_none_iff.mp he) h
  | some e => simp [add, he]

theorem counts_foldl (t : Tally) (os : List Outcome) :
    (os.foldl add t).succeeded = t.succeeded + os.countP (·.isSuccess) ∧
      (os.foldl add t).failed = t.failed + os.countP (fun o => !o.isSuccess) := by
  induction os generalizing t with
  | nil => simp
  | cons o os ih =>
    rw [List.foldl_cons, (ih _).1, (ih _).2, List.countP_cons, List.countP_cons]
    by_cases h : o.isSuccess
    · simp [add_of_isSuccess h, h]
      omega
    · simp [failed_add h, h]
      omega

theorem succeeded_ofResults (results : List WorkerResult) :
    (ofResults results).succeeded = (results.flatMap (·.outcomes)).countP (·.isSuccess) := by
  rw [ofResults_eq_foldl, (counts_foldl _ _).1, Nat.zero_add]

theorem failed_ofResults (results : List WorkerResult) :
    (ofResults results).failed = (results.flatMap (·.outcomes)).countP (fun o => !o.isSuccess) := by
  rw [ofResults_eq_foldl, (counts_foldl _ _).2, Nat.zero_add]

/-- Every outcome is counted once. -/
theorem total_ofResults (results : List WorkerResult) :
    (ofResults results).total = (results.flatMap (·.outcomes)).length := by
  rw [total, succeeded_ofResults, failed_ofResults]
  have hsplit := List.length_eq_countP_add_countP (·.isSuccess) (l := results.flatMap (·.outcomes))
  simpa using hsplit.symm

end Tally

end BenchRig
