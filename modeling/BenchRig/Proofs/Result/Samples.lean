import BenchRig.Proofs.Result.Tally
import Mathlib.Algebra.GroupWithZero.Nat
import Mathlib.Data.Finset.Card
import Mathlib.Data.List.Induction
import Mathlib.Data.List.Perm.Basic
import Mathlib.Tactic.SplitIfs

/-!
# Sampled errors

A tally keeps the first few distinct errors of a run. Which ones these are depends on the order of
the results only where there are more distinct errors than are kept; the counts never do.
-/

namespace BenchRig

/-- The errors of the requests that failed, in the order in which they were made. -/
def errorTexts (os : List Outcome) : List String := os.filterMap (·.error?)

/-! ## First occurrences -/

section EraseDups

variable {l l' : List String}

theorem eraseDups_concat (l : List String) (e : String) :
    (l ++ [e]).eraseDups = if e ∈ l then l.eraseDups else l.eraseDups ++ [e] := by
  rw [List.eraseDups_append]
  by_cases h : e ∈ l
  · simp [List.removeAll, h]
  · simp [List.removeAll, h, List.eraseDups_cons]

theorem nodup_eraseDups (l : List String) : l.eraseDups.Nodup := by
  induction l using List.reverseRecOn with
  | nil => exact List.nodup_nil
  | append_singleton l e ih =>
    rw [eraseDups_concat]
    split_ifs with h
    · exact ih
    · refine List.nodup_append.mpr ⟨ih, List.nodup_singleton e, ?_⟩
      intro a ha b hb hab
      rw [List.mem_singleton] at hb
      subst hab hb
      exact h (List.mem_eraseDups.mp ha)

theorem toFinset_eraseDups (l : List String) : l.eraseDups.toFinset = l.toFinset := by
  ext e
  rw [List.mem_toFinset, List.mem_toFinset, List.mem_eraseDups]

theorem length_eraseDups (l : List String) : l.eraseDups.length = l.toFinset.card := by
  rw [← toFinset_eraseDups, List.toFinset_card_of_nodup (nodup_eraseDups l)]

theorem perm_eraseDups (h : l.Perm l') : l.eraseDups.Perm l'.eraseDups := by
  refine (List.perm_ext_iff_of_nodup (nodup_eraseDups l) (nodup_eraseDups l')).mpr fun e => ?_
  rw [List.mem_eraseDups, List.mem_eraseDups, h.mem_iff]

/-- A text that is kept only while there is room, and only if it is new, keeps the first distinct
texts. -/
theorem take_eraseDups_concat (n : Nat) (l : List String) (e : String) :
    (l ++ [e]).eraseDups.take n =
      if (l.eraseDups.take n).length < n ∧ e ∉ l.eraseDups.take n then l.eraseDups.take n ++ [e]
      else l.eraseDups.take n := by
  rw [eraseDups_concat]
  by_cases hroom : l.eraseDups.length < n
  · have hall : l.eraseDups.take n = l.eraseDups := List.take_of_length_le (Nat.le_of_lt hroom)
    rw [hall]
    by_cases hmem : e ∈ l
    · have hold : e ∈ l.eraseDups := List.mem_eraseDups.mpr hmem
      rw [if_pos hmem, if_neg (not_and.mpr fun _ => not_not.mpr hold), hall]
    · have hnew : e ∉ l.eraseDups := mt List.mem_eraseDups.mp hmem
      have hlength : (l.eraseDups ++ [e]).length ≤ n := by
        rw [List.length_append, List.length_singleton]
        omega
      rw [if_neg hmem, if_pos ⟨hroom, hnew⟩, List.take_of_length_le hlength]
  · have hfull : n ≤ l.eraseDups.length := Nat.not_lt.mp hroom
    have hkept : ¬ (l.eraseDups.take n).length < n := by
      rw [List.length_take]
      omega
    rw [if_neg (not_and.mpr fun h => absurd h hkept)]
    by_cases hmem : e ∈ l
    · rw [if_pos hmem]
    · rw [if_neg hmem, List.take_append_of_le_length hfull]

end EraseDups

/-! ## Tallies -/

theorem errorTexts_concat (os : List Outcome) (o : Outcome) :
    errorTexts (os ++ [o]) = errorTexts os ++ o.error?.toList := by
  rw [errorTexts, List.filterMap_append]
  cases h : o.error? <;> simp [errorTexts, h]

theorem WorkerResult.failedCount_eq (r : WorkerResult) :
    r.failedCount = r.outcomes.countP fun o => !o.isSuccess :=
  List.countP_eq_length_filter.symm

theorem WorkerResult.succeeded_eq (r : WorkerResult) :
    r.requestCount - r.failedCount = r.outcomes.countP (·.isSuccess) := by
  have hsplit := List.length_eq_countP_add_countP (·.isSuccess) (l := r.outcomes)
  have hfailed : r.failedCount = r.outcomes.countP fun o => ¬ o.isSuccess := by
    simp [failedCount_eq]
  rw [requestCount, hsplit, hfailed, Nat.add_sub_cancel]

namespace Tally

/-- The first three distinct errors are sampled. -/
theorem sampleErrors_foldl (os : List Outcome) :
    (os.foldl add {}).sampleErrors = (errorTexts os).eraseDups.take maxSampleErrors := by
  induction os using List.reverseRecOn with
  | nil => rfl
  | append_singleton os o ih =>
    rw [List.foldl_append, errorTexts_concat]
    simp only [List.foldl_cons, List.foldl_nil, add]
    cases o.error? with
    | none => simpa using ih
    | some e => simp only [ih, Option.toList_some, take_eraseDups_concat]

theorem sampleErrors_ofResults (results : List WorkerResult) :
    (ofResults results).sampleErrors =
      (errorTexts (results.flatMap (·.outcomes))).eraseDups.take maxSampleErrors := by
  rw [ofResults_eq_foldl, sampleErrors_foldl]

theorem failed_eq_sum (results : List WorkerResult) :
    (ofResults results).failed = (results.map (·.failedCount)).sum := by
  rw [failed_ofResults, List.countP_flatMap]
  exact congrArg List.sum (List.map_congr_left fun r _ => r.failedCount_eq.symm)

theorem succeeded_eq_sum (results : List WorkerResult) :
    (ofResults results).succeeded =
      (results.map fun r => r.requestCount - r.failedCount).sum := by
  rw [succeeded_ofResults, List.countP_flatMap]
  exact congrArg List.sum (List.map_congr_left fun r _ => r.succeeded_eq.symm)

theorem total_eq_sum (results : List WorkerResult) :
    (ofResults results).total = (results.map (·.requestCount)).sum := by
  rw [total_ofResults, List.length_flatMap]
  rfl

end Tally

/-- A tally counts the failed requests of all workers, and the others as successes; it samples the
first three distinct errors. In whatever order the results come, the counts are the same, and so is
the number of sampled errors; where there are at most three distinct ones, all of them are sampled. -/
theorem tally_of_results (results : List WorkerResult) :
    let tally := Tally.ofResults results
    let texts := errorTexts (results.flatMap (·.outcomes))
    tally.failed = (results.map (·.failedCount)).sum ∧
      tally.succeeded = (results.map fun r => r.requestCount - r.failedCount).sum ∧
      tally.total = (results.map (·.requestCount)).sum ∧
      tally.sampleErrors = texts.eraseDups.take 3 ∧
      ∀ results' : List WorkerResult, results'.Perm results →
        let tally' := Tally.ofResults results'
        tally'.failed = tally.failed ∧ tally'.succeeded = tally.succeeded ∧
          tally'.sampleErrors.length = min 3 texts.toFinset.card ∧
          (texts.toFinset.card ≤ 3 → tally'.sampleErrors.Perm tally.sampleErrors) := by
  intro tally texts
  have hsample : tally.sampleErrors = texts.eraseDups.take 3 :=
    Tally.sampleErrors_ofResults results
  refine ⟨Tally.failed_eq_sum results, Tally.succeeded_eq_sum results, Tally.total_eq_sum results,
    hsample, ?_⟩
  intro results' hperm tally'
  have houtcomes : (results'.flatMap (·.outcomes)).Perm (results.flatMap (·.outcomes)) :=
    hperm.flatMap_right _
  have hdistinct : (errorTexts (results'.flatMap (·.outcomes))).eraseDups.Perm texts.eraseDups :=
    perm_eraseDups (houtcomes.filterMap _)
  have hsample' : tally'.sampleErrors =
      (errorTexts (results'.flatMap (·.outcomes))).eraseDups.take 3 :=
    Tally.sampleErrors_ofResults results'
  have hlength := hdistinct.length_eq
  rw [length_eraseDups texts] at hlength
  refine ⟨?_, ?_, ?_, ?_⟩
  · rw [Tally.failed_ofResults, houtcomes.countP_eq, ← Tally.failed_ofResults]
  · rw [Tally.succeeded_ofResults, houtcomes.countP_eq, ← Tally.succeeded_ofResults]
  · rw [hsample', List.length_take, hlength]
  · intro hfew
    have hall : texts.eraseDups.length ≤ 3 := by
      rwa [length_eraseDups]
    rw [hsample, hsample', List.take_of_length_le (hlength.trans_le hfew),
      List.take_of_length_le hall]
    exact hdistinct

/-- Two workers met three distinct errors, one of them twice: in either order all three are
sampled. -/
theorem tally_of_swapped :
    let first : WorkerResult := ⟨1, .requests [.failed 1 "refused", .failed 2 "timed out"]⟩
    let second : WorkerResult := ⟨2, .requests [.failed 1 "reset", .failed 2 "refused"]⟩
    (Tally.ofResults [second, first]).sampleErrors.Perm
      (Tally.ofResults [first, second]).sampleErrors := by
  intro first second
  have hperm : [second, first].Perm [first, second] := List.Perm.swap first second []
  exact ((tally_of_results [first, second]).2.2.2.2 _ hperm).2.2.2 (by decide)

end BenchRig
