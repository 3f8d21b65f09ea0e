import BenchRig.Pool.Dispatch
import Mathlib.Data.List.Nodup
import Mathlib.Data.List.Perm.Subperm
import Mathlib.Tactic.IntervalCases

/-!
# Accounts

The check of ids keeps a slot for each worker. It accepts exactly the lists in which the ids of all
workers stand once each, in any order; where it does not, it names the first id that no worker has,
or that was reported before.
-/

namespace BenchRig

open Decimal (text)
open Pool (workerIds)

/-! ## Ids of workers -/

theorem toNat_workerId {workers : UInt32} {i : Nat} (hi : i < workers.toNat) :
    (UInt32.ofNat (i + 1)).toNat = i + 1 :=
  UInt32.toNat_ofNat_of_lt' (Nat.lt_of_le_of_lt hi workers.toNat_lt)

theorem length_workerIds (workers : UInt32) : (workerIds workers).length = workers.toNat := by
  simp [workerIds]

theorem map_toNat_workerIds (workers : UInt32) :
    (workerIds workers).map UInt32.toNat = List.range' 1 workers.toNat := by
  have hids : (workerIds workers).map UInt32.toNat =
      (List.range workers.toNat).map fun i => 1 + i := by
    rw [workerIds, List.map_map]
    refine List.map_congr_left fun i hi => ?_
    rw [Function.comp_apply, toNat_workerId (List.mem_range.mp hi), Nat.add_comm]
  rw [hids, List.range'_eq_map_range]

theorem perm_workerIds_iff {workers : UInt32} {ids : List UInt32} :
    ids.Perm (workerIds workers) ↔
      (ids.map UInt32.toNat).Perm (List.range' 1 workers.toNat) := by
  rw [← map_toNat_workerIds, List.map_perm_map_iff fun _ _ => UInt32.toNat_inj.mp]

/-- As many numbers as there are workers, without repetition and all in range, are all numbers. -/
theorem perm_range'_iff {n : Nat} {l : List Nat} :
    l.Perm (List.range' 1 n) ↔ l.length = n ∧ l.Nodup ∧ ∀ k ∈ l, 1 ≤ k ∧ k ≤ n := by
  have hmem : ∀ k, k ∈ List.range' 1 n ↔ 1 ≤ k ∧ k ≤ n := by
    intro k
    rw [List.mem_range'_1]
    omega
  constructor
  · intro h
    refine ⟨h.length_eq.trans List.length_range', h.nodup_iff.mpr List.nodup_range', ?_⟩
    intro k hk
    exact (hmem k).mp (h.mem_iff.mp hk)
  · rintro ⟨hlength, hnodup, hrange⟩
    have hsub : l ⊆ List.range' 1 n := fun k hk => (hmem k).mpr (hrange k hk)
    refine (List.subperm_of_subset hnodup hsub).perm_of_length_le ?_
    exact Nat.le_of_eq (List.length_range'.trans hlength.symm)

/-! ## Slots -/

/-- No worker has the id. -/
def Outside (submitted : Nat) (id : UInt32) : Prop := id = 0 ∨ submitted < id.toNat

instance (submitted : Nat) (id : UInt32) : Decidable (Outside submitted id) :=
  inferInstanceAs (Decidable (_ ∨ _))

theorem slotOf_zero : slotOf 0 = 2 ^ 64 - 1 := rfl

theorem slotOf_of_ne_zero {id : UInt32} (h : id ≠ 0) : slotOf id + 1 = id.toNat := by
  have hpos : id.toNat ≠ 0 := fun hzero => h (UInt32.toNat_inj.mp hzero)
  have hword := id.toNat_lt
  rw [slotOf, UInt64.toNat_sub, UInt32.toNat_toUInt64, UInt64.toNat_one]
  omega

/-- The slot of zero is far from those of all other ids, and these differ from each other. -/
theorem slotOf_inj {id id' : UInt32} : slotOf id = slotOf id' ↔ id = id' := by
  constructor
  · intro h
    rw [← UInt32.toNat_inj]
    have hid := id.toNat_lt
    have hid' := id'.toNat_lt
    by_cases hzero : id = 0
    · by_cases hzero' : id' = 0
      · rw [hzero, hzero']
      · have hslot' := slotOf_of_ne_zero hzero'
        rw [hzero, slotOf_zero] at h
        omega
    · have hslot := slotOf_of_ne_zero hzero
      by_cases hzero' : id' = 0
      · rw [hzero', slotOf_zero] at h
        omega
      · have hslot' := slotOf_of_ne_zero hzero'
        omega
  · intro h
    rw [h]

/-- The ids that have a slot are those of workers. -/
theorem slotOf_lt_iff {submitted : Nat} (hword : submitted < 2 ^ 64) {id : UInt32} :
    slotOf id < submitted ↔ ¬ Outside submitted id := by
  unfold Outside
  by_cases hzero : id = 0
  · have hslot : ¬ slotOf id < submitted := by
      rw [hzero, slotOf_zero]
      omega
    exact ⟨fun hlt => absurd hlt hslot, fun h => absurd (.inl hzero) h⟩
  · have hslot := slotOf_of_ne_zero hzero
    simp only [hzero, false_or]
    omega

theorem not_slotOf_lt_iff {submitted : Nat} (hword : submitted < 2 ^ 64) {id : UInt32} :
    ¬ slotOf id < submitted ↔ Outside submitted id := by
  rw [slotOf_lt_iff hword, not_not]

theorem not_outside_iff {submitted : Nat} {id : UInt32} :
    ¬ Outside submitted id ↔ 1 ≤ id.toNat ∧ id.toNat ≤ submitted := by
  have hzero : id = 0 ↔ id.toNat = 0 := UInt32.toNat_inj.symm
  unfold Outside
  rw [hzero]
  omega

/-- The slots that are set are those of the ids met so far. -/
structure Marks (submitted : Nat) (met : List UInt32) (seen : Array Bool) : Prop where
  size : seen.size = submitted
  slots : ∀ id, slotOf id < submitted → seen[slotOf id]? = some (decide (id ∈ met))

theorem marks_replicate (submitted : Nat) :
    Marks submitted [] (Array.replicate submitted false) where
  size := Array.size_replicate
  slots id hid := by
    simp [hid]

section Marks

variable {submitted : Nat} {met ids : List UInt32} {seen : Array Bool} {id : UInt32}

theorem Marks.set (h : Marks submitted met seen) (hid : slotOf id < submitted) :
    Marks submitted (met ++ [id]) (seen.setIfInBounds (slotOf id) true) where
  size := by rw [Array.size_setIfInBounds, h.size]
  slots id' hid' := by
    rw [Array.getElem?_setIfInBounds, h.size, h.slots id' hid']
    by_cases heq : id = id'
    · subst heq
      simp [hid]
    · have hslot : slotOf id ≠ slotOf id' := fun hslot => heq (slotOf_inj.mp hslot)
      simp [hslot, Ne.symm heq]

/-- One step of the check: an id without a slot and one whose slot is set are refused. -/
theorem Marks.checkIds_cons (h : Marks submitted met seen) :
    checkIds submitted seen (id :: ids) =
      if slotOf id < submitted then
        if id ∈ met then .error (.repeated id)
        else checkIds submitted (seen.setIfInBounds (slotOf id) true) ids
      else .error (.outside id submitted) := by
  rw [checkIds]
  by_cases hid : slotOf id < submitted
  · rw [if_pos hid, h.slots id hid]
    by_cases hmet : id ∈ met
    · simp [hmet]
    · simp [hmet]
  · have hnone : seen[slotOf id]? = none := by
      rw [Array.getElem?_eq_none_iff, h.size]
      omega
    rw [if_neg hid, hnone]

/-! ## Checks -/

theorem Marks.checkIds_ok_iff (h : Marks submitted met seen) :
    checkIds submitted seen ids = .ok () ↔
      ids.Nodup ∧ ∀ id ∈ ids, slotOf id < submitted ∧ id ∉ met := by
  induction ids generalizing met seen with
  | nil => simp [checkIds]
  | cons id ids ih =>
    rw [h.checkIds_cons, List.nodup_cons, List.forall_mem_cons]
    by_cases hid : slotOf id < submitted
    · by_cases hmet : id ∈ met
      · simp [hid, hmet]
      · rw [if_pos hid, if_neg hmet, ih (h.set hid)]
        simp only [List.mem_append, List.mem_singleton, not_or]
        constructor
        · rintro ⟨hnodup, hall⟩
          exact ⟨⟨fun hmem => (hall id hmem).2.2 rfl, hnodup⟩, ⟨hid, hmet⟩,
            fun id' hid' => ⟨(hall id' hid').1, (hall id' hid').2.1⟩⟩
        · rintro ⟨⟨hfresh, hnodup⟩, -, hall⟩
          refine ⟨hnodup, fun id' hid' => ⟨(hall id' hid').1, (hall id' hid').2, ?_⟩⟩
          rintro rfl
          exact hfresh hid'
    · simp [hid]

/-- A fault of the check names the first id that has no slot or was met before: those in front of
it are accepted. -/
theorem Marks.checkIds_error {f : AccountingFault} (h : Marks submitted met seen)
    (herror : checkIds submitted seen ids = .error f) :
    ∃ before id after, ids = before ++ id :: after ∧ checkIds submitted seen before = .ok () ∧
      ((f = .outside id submitted ∧ ¬ slotOf id < submitted) ∨
        (f = .repeated id ∧ slotOf id < submitted ∧ id ∈ met ++ before)) := by
  induction ids generalizing met seen with
  | nil => cases herror
  | cons id ids ih =>
    rw [h.checkIds_cons] at herror
    by_cases hid : slotOf id < submitted
    · by_cases hmet : id ∈ met
      · rw [if_pos hid, if_pos hmet] at herror
        obtain rfl := Except.error.inj herror
        exact ⟨[], id, ids, rfl, rfl, .inr ⟨rfl, hid, List.mem_append_left _ hmet⟩⟩
      · rw [if_pos hid, if_neg hmet] at herror
        obtain ⟨before, id', after, rfl, haccepted, hfault⟩ := ih (h.set hid) herror
        refine ⟨id :: before, id', after, rfl, ?_, ?_⟩
        · rw [h.checkIds_cons, if_pos hid, if_neg hmet, haccepted]
        · rwa [List.append_assoc] at hfault
    · rw [if_neg hid] at herror
      obtain rfl := Except.error.inj herror
      exact ⟨[], id, ids, rfl, rfl, .inl ⟨rfl, hid⟩⟩

end Marks

section Accounting

variable {submitted : Nat} {results : List WorkerResult}

theorem checkAccounting_of_length (hlength : results.length = submitted) :
    checkAccounting submitted results =
      checkIds submitted (Array.replicate submitted false) (results.map (·.id)) := by
  rw [checkAccounting, if_neg (not_not.mpr hlength)]

theorem length_of_checkAccounting (h : checkAccounting submitted results = .ok ()) :
    results.length = submitted := by
  unfold checkAccounting at h
  split_ifs at h with hlength
  exact not_not.mp hlength

/-- Accounts add up exactly when the ids are the numbers from one to that of the workers, each of
them once. -/
theorem checkAccounting_ok_iff_perm (hword : submitted < 2 ^ 64) :
    checkAccounting submitted results = .ok () ↔
      (results.map (·.id.toNat)).Perm (List.range' 1 submitted) := by
  have hids : results.map (·.id.toNat) = (results.map (·.id)).map UInt32.toNat := by
    rw [List.map_map]
    rfl
  rw [hids, perm_range'_iff, List.length_map, List.length_map,
    List.nodup_map_iff fun _ _ => UInt32.toNat_inj.mp, List.forall_mem_map]
  by_cases hlength : results.length = submitted
  · rw [checkAccounting_of_length hlength, (marks_replicate submitted).checkIds_ok_iff]
    simp only [slotOf_lt_iff hword, not_outside_iff, hlength, List.not_mem_nil, not_false_iff,
      and_true, true_and]
  · simp [checkAccounting, hlength]

/-- With as many results as workers, a fault of the accounts names an id. -/
theorem checkAccounting_error {f : AccountingFault} (hlength : results.length = submitted)
    (h : checkAccounting submitted results = .error f) :
    ∃ id ∈ results.map (·.id), f = .outside id submitted ∨ f = .repeated id := by
  rw [checkAccounting_of_length hlength] at h
  obtain ⟨before, id, after, hids, -, hfault⟩ := (marks_replicate submitted).checkIds_error h
  exact ⟨id, by simp [hids], hfault.imp And.left And.left⟩

end Accounting

/-- Accounts add up exactly when each worker has reported once. -/
theorem checkAccounting_ok_iff {workers : UInt32} {results : List WorkerResult} :
    checkAccounting workers.toNat results = .ok () ↔
      (results.map (·.id)).Perm (workerIds workers) := by
  have hword : workers.toNat < 2 ^ 64 := Nat.lt_trans workers.toNat_lt (by decide)
  rw [checkAccounting_ok_iff_perm hword, perm_workerIds_iff, List.map_map]
  rfl

/-- The check of attempts accepts exactly the results that each hold as many outcomes as planned. -/
theorem checkAttempts_ok_iff {attempts : UInt32} {results : List WorkerResult} :
    checkAttempts attempts results = .ok () ↔
      ∀ r ∈ results, r.outcomes.length = attempts.toNat := by
  rw [checkAttempts]
  split
  · rename_i r hr
    have hcount : r.requestCount ≠ attempts.toNat := by simpa using List.find?_some hr
    simp only [reduceCtorEq, false_iff]
    exact fun hall => hcount (hall r (List.mem_of_find?_eq_some hr))
  · rename_i hnone
    simp only [true_iff]
    intro r hr
    have hcount := List.find?_eq_none.mp hnone r hr
    exact not_not.mp fun hne => hcount (decide_eq_true hne)

/-- The check of sums accepts exactly the results of workers that all counted to the same sum. -/
theorem checkSums_ok_iff {expected : UInt64} {results : List WorkerResult} :
    checkSums expected results = .ok () ↔ ∀ r ∈ results, r.sum? = some expected := by
  induction results with
  | nil => simp [checkSums]
  | cons r rs ih =>
    rw [checkSums, List.forall_mem_cons]
    cases hsum : r.sum? with
    | none => simp
    | some sum =>
      by_cases heq : sum = expected
      · simp [heq, ih]
      · simp [heq]

/-! ## The first offence -/

/-- The id at place `i` is that of no worker, or it stands further in front. -/
def Offends (submitted : Nat) (ids : List UInt32) (i : Nat) : Prop :=
  ∃ id, ids[i]? = some id ∧ (Outside submitted id ∨ id ∈ ids.take i)

/-- None of the ids that the check accepts offends, whatever follows them. -/
theorem not_offends_of_accepted {submitted : Nat} (hword : submitted < 2 ^ 64)
    {before : List UInt32}
    (haccepted : checkIds submitted (Array.replicate submitted false) before = .ok ())
    (rest : List UInt32) {j : Nat} (hj : j < before.length) :
    ¬ Offends submitted (before ++ rest) j := by
  obtain ⟨hnodup, hall⟩ := (marks_replicate submitted).checkIds_ok_iff.mp haccepted
  rintro ⟨id, hid, hoffends⟩
  rw [List.getElem?_append_left hj] at hid
  rw [List.take_append_of_le_length (Nat.le_of_lt hj)] at hoffends
  have hmem : id ∈ before := List.mem_of_getElem? hid
  rcases hoffends with houtside | htaken
  · exact (slotOf_lt_iff hword).mp (hall id hmem).1 houtside
  · have hdropped : id ∈ before.drop j := by
      refine List.mem_of_getElem? (i := 0) ?_
      rw [List.getElem?_drop, Nat.add_zero, hid]
    exact List.disjoint_take_drop hnodup (Nat.le_refl j) htaken hdropped

/-- A fault of the accounts is about the first id that offends: one that no worker has, or one that
was reported before. -/
theorem checkAccounting_offence {submitted : Nat} (hword : submitted < 2 ^ 64)
    {results : List WorkerResult} {f : AccountingFault} (hlength : results.length = submitted)
    (h : checkAccounting submitted results = .error f) :
    let ids := results.map (·.id)
    ∃ i id, ids[i]? = some id ∧ Offends submitted ids i ∧ (∀ j < i, ¬ Offends submitted ids j) ∧
      ((Outside submitted id ∧ f = .outside id submitted) ∨
        (id ∈ ids.take i ∧ ¬ Outside submitted id ∧ f = .repeated id)) := by
  intro ids
  rw [checkAccounting_of_length hlength] at h
  obtain ⟨before, id, after, hids, haccepted, hfault⟩ := (marks_replicate submitted).checkIds_error h
  have hat : ids[before.length]? = some id := by
    simp [ids, hids]
  have htake : ids.take before.length = before := by
    simp [ids, hids]
  have hfirst : ∀ j < before.length, ¬ Offends submitted ids j := by
    intro j hj
    have hclean := not_offends_of_accepted hword haccepted (id :: after) hj
    rwa [← hids] at hclean
  have hnamed : (Outside submitted id ∧ f = .outside id submitted) ∨
      (id ∈ ids.take before.length ∧ ¬ Outside submitted id ∧ f = .repeated id) := by
    rw [htake, ← slotOf_lt_iff hword, ← not_slotOf_lt_iff hword]
    rcases hfault with ⟨hf, hslot⟩ | ⟨hf, hslot, hmem⟩
    · exact .inl ⟨hslot, hf⟩
    · exact .inr ⟨hmem, hslot, hf⟩
  have hoffends : Offends submitted ids before.length :=
    ⟨id, hat, hnamed.imp And.left And.left⟩
  exact ⟨before.length, id, hat, hoffends, hfirst, hnamed⟩

/-- Accounts add up exactly when the reported ids are the numbers from one to that of the submitted
workers, in any order. Otherwise the run fails: with both numbers, where there are not as many
results as workers, and else with the first id that offends, as one that no worker has or as one
that was reported before. -/
theorem accounting_of_ids (submitted : UInt64) (results : List WorkerResult) :
    let n := submitted.toNat
    let ids := results.map (·.id)
    let verdict := (checkAccounting n results).mapError AccountingFault.failure
    (verdict = .ok () ↔ (ids.map UInt32.toNat).Perm (List.range' 1 n)) ∧
      (results.length ≠ n →
        verdict = .error ⟨.accounting, "Collected " ++ text results.length ++ " results for " ++
          text n ++ " submitted workers"⟩) ∧
      (results.length = n → ¬ (ids.map UInt32.toNat).Perm (List.range' 1 n) →
        ∃ i id, ids[i]? = some id ∧ Offends n ids i ∧ (∀ j < i, ¬ Offends n ids j) ∧
          ((Outside n id ∧ verdict = .error ⟨.accounting, "Worker id " ++ text id.toNat ++
              " is outside 1..=" ++ text n⟩) ∨
            (id ∈ ids.take i ∧ ¬ Outside n id ∧ verdict = .error ⟨.accounting, "Worker " ++
              text id.toNat ++ " reported more than once"⟩))) := by
  intro n ids verdict
  have hword : n < 2 ^ 64 := submitted.toNat_lt
  have hok : verdict = .ok () ↔ checkAccounting n results = .ok () := by
    unfold verdict
    cases checkAccounting n results <;> simp [Except.mapError]
  have hperm : checkAccounting n results = .ok () ↔
      (ids.map UInt32.toNat).Perm (List.range' 1 n) := by
    rw [checkAccounting_ok_iff_perm hword, List.map_map]
    rfl
  refine ⟨hok.trans hperm, ?_, ?_⟩
  · intro hlength
    have hcount : checkAccounting n results = .error (.wrongCount results.length n) := by
      rw [checkAccounting, if_pos hlength]
    simp only [verdict, hcount, Except.mapError]
    rfl
  · intro hlength hnot
    cases hfault : checkAccounting n results with
    | ok => exact absurd (hperm.mp hfault) hnot
    | error f =>
      have hverdict : verdict = .error f.failure := by
        simp only [verdict, hfault, Except.mapError]
      obtain ⟨i, id, hat, hoffends, hfirst, hnamed⟩ := checkAccounting_offence hword hlength hfault
      refine ⟨i, id, hat, hoffends, hfirst, ?_⟩
      rcases hnamed with ⟨houtside, rfl⟩ | ⟨hmem, hinside, rfl⟩
      · exact .inl ⟨houtside, hverdict⟩
      · exact .inr ⟨hmem, hinside, hverdict⟩

/-- Of three results, the second one repeats an id, and only the third has one that no worker has:
the second one is named. -/
theorem accounting_of_repeated :
    (checkAccounting 3 [⟨2, .sum 0⟩, ⟨2, .sum 0⟩, ⟨0, .sum 0⟩]).mapError AccountingFault.failure =
      .error ⟨.accounting, "Worker 2 reported more than once"⟩ := by
  obtain ⟨i, id, hat, -, hfirst, hnamed⟩ :=
    (accounting_of_ids 3 [⟨2, .sum 0⟩, ⟨2, .sum 0⟩, ⟨0, .sum 0⟩]).2.2 rfl (by decide)
  have hsecond : Offends 3 [2, 2, 0] 1 := ⟨2, rfl, .inr (by decide)⟩
  have hle : i ≤ 1 := Nat.not_lt.mp fun hlt => hfirst 1 hlt hsecond
  have hid : id = 2 := by
    interval_cases i <;> exact (Option.some.inj hat).symm
  subst hid
  have htext : "Worker " ++ text (2 : UInt32).toNat ++ " reported more than once" =
      "Worker 2 reported more than once" := by decide +kernel
  rcases hnamed with ⟨houtside, -⟩ | ⟨-, -, hverdict⟩
  · exact absurd houtside (by decide)
  · rw [← htext]
    exact hverdict

end BenchRig
