import BenchRig.Proofs.Micro.LastDigits
import BenchRig.Proofs.Pool.Verdict
import BenchRig.Proofs.Pool.Watch

/-!
# Counting

All workers of a plan count equally far. Whatever order they are collected in, each of them answers
under its own id and with the sum in closed form, so neither check of their run refuses it.
-/

namespace BenchRig.Pool

open Micro (Overflow countModTenClosed countingWorker lastDigitSum)

/-- What the worker at place `i` answers. -/
def countingAnswer (plan : SpawnPlan) (i : Nat) : WorkerResult :=
  countingWorker plan.iterations (UInt32.ofNat (i + 1))

/-- How the workers of a plan end. -/
def countingEndings (plan : SpawnPlan) : List Ending :=
  (List.range plan.workers.toNat).map fun i => .ok (countingAnswer plan i)

theorem length_countingEndings (plan : SpawnPlan) :
    (countingEndings plan).length = plan.workers.toNat := by
  rw [countingEndings, List.length_map, List.length_range]

theorem countingTasks_eq (plan : SpawnPlan) :
    countingTasks plan = (countingEndings plan).map Task.ending := by
  simp only [countingTasks, countingEndings, workerIds, List.map_map]
  rfl

theorem ending_of_counting {plan : SpawnPlan} {i : Nat} {e : Ending}
    (h : (countingEndings plan)[i]? = some e) :
    i < plan.workers.toNat ∧ e = .ok (countingAnswer plan i) := by
  rw [countingEndings, List.getElem?_map, Option.map_eq_some_iff] at h
  obtain ⟨j, hj, rfl⟩ := h
  obtain ⟨hi, rfl⟩ := List.getElem?_eq_some_iff.mp hj
  rw [List.getElem_range]
  exact ⟨by simpa using hi, rfl⟩

/-- An order of what is determined by its place is an order of the places. -/
theorem exists_order_of_perm {β : Type} {f : Nat → β} (place : β → Nat) {n : Nat} {l : List β}
    (hplace : ∀ i < n, place (f i) = i) (h : l.Perm ((List.range n).map f)) :
    ∃ order : List Nat, order.Perm (List.range n) ∧ l = order.map f := by
  refine ⟨l.map place, ?_, ?_⟩
  · have hplaces : ((List.range n).map f).map place = List.range n := by
      rw [List.map_map]
      refine (List.map_congr_left fun i hi => ?_).trans (List.map_id _)
      exact hplace i (List.mem_range.mp hi)
    rw [← hplaces]
    exact h.map place
  · rw [List.map_map]
    refine ((List.map_congr_left fun b hb => ?_).trans (List.map_id l)).symm
    obtain ⟨i, hi, rfl⟩ := List.mem_map.mp (h.mem_iff.mp hb)
    rw [Function.comp_apply, hplace i (List.mem_range.mp hi), id]

/-! ## Checks -/

section Checks

variable {plan : SpawnPlan} {order : List Nat}

theorem checkAccounting_of_counting (horder : order.Perm (List.range plan.workers.toNat)) :
    checkAccounting plan.workers.toNat (order.map (countingAnswer plan)) = .ok () := by
  refine checkAccounting_ok_iff.mpr ?_
  rw [List.map_map, workerIds]
  exact horder.map _

theorem checkSums_of_counting (plan : SpawnPlan) (order : List Nat) :
    checkSums (countModTenClosed plan.iterations) (order.map (countingAnswer plan)) = .ok () := by
  refine checkSums_ok_iff.mpr fun r hr => ?_
  obtain ⟨i, -, rfl⟩ := List.mem_map.mp hr
  rw [← Micro.countModTen_eq_closed]
  rfl

end Checks

/-! ## Runs -/

/-- The places of the workers of a plan, in the order in which they are collected. -/
def countingOrder (processors : UInt32) (course : Course) (plan : SpawnPlan) (world : World) :
    List Nat :=
  runOrder noClient (.cpu processors) .thread (countingTasks plan) false course world

section Runs

variable {plan : SpawnPlan}

/-- Whatever course it takes, the run of a plan succeeds with the answers of all workers, in the
order in which they are collected. -/
theorem spawn_of_counting (hplan : plan.validate = .ok ()) (processors : UInt32) (course : Course)
    (world : World) :
    (countingOrder processors course plan world).Perm (List.range plan.workers.toNat) ∧
      ∃ report, (spawn processors course plan world).outcome = .ok report ∧
        report.submitted = plan.workers.toNat ∧ report.peak = none ∧
        report.results = (countingOrder processors course plan world).map (countingAnswer plan) := by
  unfold countingOrder
  have hruns := run_of_endings noClient (Config.buildable_cpu processors) .thread
    (countingEndings plan) false course world
  rw [← countingTasks_eq, length_countingEndings] at hruns
  rcases hruns with ⟨i, message, hi, -⟩ | ⟨report, hsubmitted, horder, hcollected, hrun⟩
  · -- No worker panics.
    cases (ending_of_counting hi).2
  · -- What is determined place by place is determined as a whole.
    have hanswered := List.forall₂_map_left_iff.mpr <| hcollected.imp fun i r hi =>
      (Except.ok.inj (ending_of_counting hi).2).symm
    rw [List.forall₂_eq_eq_eq] at hanswered
    have hresults := hanswered.symm
    rw [hresults, checkAccounting_of_counting horder] at hrun
    have hsums : checkSums (countModTenClosed plan.iterations) report.results = .ok () := by
      rw [hresults]
      exact checkSums_of_counting plan _
    refine ⟨horder, report, ?_, hsubmitted, peak_of_unwatched hrun, hresults⟩
    rw [spawn, hplan]
    exact Run.check_of_ok hrun hsums

/-- For every order there is a course in which the workers are collected in this order. -/
theorem exists_countingOrder (processors : UInt32) (plan : SpawnPlan) (world : World)
    {order : List Nat} (horder : order.Perm (List.range plan.workers.toNat)) :
    ∃ course, countingOrder processors course plan world = order := by
  refine ⟨Course.inOrder order, ?_⟩
  rw [← length_countingEndings] at horder
  rw [countingOrder, countingTasks_eq, runOrder_inOrder noClient (Config.buildable_cpu processors)
    .thread (countingEndings plan) false world horder]
  refine List.takeWhile_eq_self_iff.mpr fun i hi => ?_
  have hlt : i < (countingEndings plan).length :=
    List.mem_range.mp (horder.mem_iff.mp hi)
  have hat := List.getElem?_eq_getElem hlt
  rw [hat, (ending_of_counting hat).2]
  rfl

end Runs

/-- A plan that is accepted, and whose sum fits into a word, succeeds in every course: each worker
answers once, with the sum, and neither check refuses the answers. They come in the order in which
the workers are collected, and every order is one of some course. -/
theorem sums_of_counting {plan : SpawnPlan} (hplan : plan.validate = .ok ())
    (hfits : lastDigitSum plan.iterations.toNat < 2 ^ 64) (processors : UInt32) (world : World) :
    let sum := UInt64.ofNat (lastDigitSum plan.iterations.toNat)
    let answers : List WorkerResult := (workerIds plan.workers).map fun id => ⟨id, .sum sum⟩
    (sum.toNat = lastDigitSum plan.iterations.toNat ∧
        ∀ o : Overflow, o.countModTen plan.iterations = some sum ∧
          o.countModTenClosed plan.iterations = some sum) ∧
      (∀ course, ∃ report, (spawn processors course plan world).outcome = .ok report ∧
        report.submitted = plan.workers.toNat ∧ report.peak = none ∧
        report.results.Perm answers ∧
        checkAccounting report.submitted report.results = .ok () ∧
        checkSums (countModTenClosed plan.iterations) report.results = .ok ()) ∧
      ∀ results : List WorkerResult, results.Perm answers →
        ∃ course report, (spawn processors course plan world).outcome = .ok report ∧
          report.results = results := by
  intro sum answers
  have hword : ∀ o : Overflow, o.word (lastDigitSum plan.iterations.toNat) = some sum :=
    fun o => Overflow.word_of_lt o hfits
  have hanswers : answers = (List.range plan.workers.toNat).map (countingAnswer plan) := by
    have hcount := Micro.countModTen_eq_ofNat plan.iterations
    simp only [answers, workerIds, List.map_map]
    refine List.map_congr_left fun i _ => ?_
    rw [countingAnswer, countingWorker, hcount]
    rfl
  refine ⟨⟨UInt64.toNat_ofNat_of_lt' hfits, fun o => ?_⟩, fun course => ?_, fun results hresults => ?_⟩
  · rw [Overflow.countModTen_eq_word, Overflow.countModTenClosed_eq_word, hword]
    exact ⟨rfl, rfl⟩
  · obtain ⟨horder, report, hrun, hsubmitted, hpeak, hcollected⟩ :=
      spawn_of_counting hplan processors course world
    refine ⟨report, hrun, hsubmitted, hpeak, ?_, ?_, ?_⟩
    · rw [hcollected, hanswers]
      exact horder.map _
    · rw [hsubmitted, hcollected]
      exact checkAccounting_of_counting horder
    · rw [hcollected]
      exact checkSums_of_counting plan _
  · rw [hanswers] at hresults
    have hplace : ∀ i < plan.workers.toNat, (countingAnswer plan i).id.toNat - 1 = i := by
      intro i hi
      rw [countingAnswer, countingWorker, toNat_workerId hi, Nat.add_sub_cancel]
    obtain ⟨order, horder, rfl⟩ :=
      exists_order_of_perm (fun r => r.id.toNat - 1) hplace hresults
    obtain ⟨course, hcourse⟩ := exists_countingOrder processors plan world horder
    obtain ⟨-, report, hrun, -, -, hcollected⟩ := spawn_of_counting hplan processors course world
    exact ⟨course, report, hrun, by rw [hcollected, hcourse]⟩

/-- Of two workers that count to seven, the second one may be collected first. -/
theorem sums_of_twoWorkers :
    ∃ course report, (spawn 1 course ⟨2, 7⟩ {}).outcome = .ok report ∧
      report.results = [⟨2, .sum 28⟩, ⟨1, .sum 28⟩] := by
  have hplan : SpawnPlan.validate ⟨2, 7⟩ = .ok () := rfl
  have hfits : lastDigitSum (7 : UInt64).toNat < 2 ^ 64 := by decide
  exact (sums_of_counting hplan hfits 1 {}).2.2 _ (by decide)

end BenchRig.Pool
