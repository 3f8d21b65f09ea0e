import BenchRig.Proofs.Pool.Schedule
import BenchRig.Proofs.Pool.Story
import BenchRig.Proofs.Result.Accounting
import Mathlib.Data.List.Perm.Basic
import Mathlib.Data.Option.Basic

/-!
# The verdict on a run

Whether a run of units succeeds, and why it does not, is decided by what its units return, once its
pool is built: the order in which they are collected decides only the order of the results. That is
the order in which they end only where each is collected before the next one ends.
-/

namespace BenchRig.Pool

/-- The results collected from all places, in any order, are a permutation of what was there. -/
theorem map_perm_of_order {α β : Type} {l : List α} {f : β → α} {order : List Nat} {rs : List β}
    (horder : order.Perm (List.range l.length))
    (h : List.Forall₂ (fun i r => l[i]? = some (f r)) order rs) : (rs.map f).Perm l := by
  have hplaces : order.map (fun i => l[i]?) = (rs.map f).map some := by
    clear horder
    induction h with
    | nil => rfl
    | cons hi _ ih => simp only [List.map_cons, hi, ih]
  have hall : (List.range l.length).map (fun i => l[i]?) = l.map some := by
    refine List.ext_getElem? fun i => ?_
    by_cases hi : i < l.length
    · simp [hi]
    · simp [hi]
  refine (List.map_perm_map_iff (Option.some_injective α)).mp ?_
  rw [← hplaces, ← hall]
  exact horder.map _

/-- A unit that returns or panics, and does nothing else, ends as it was meant to. -/
theorem Lived.ending {client : Client} {i : Nat} {e : Ending} {calls : List (Call × Nat)}
    {told : List (Teller × Log.DispatchEvent)} {p : Phase}
    (h : Lived client i (.ending e) calls told p) :
    p = .waiting (.ending e) ∨ p = .active (.ending e) ∨ p = .ended e := by
  induction h with
  | waiting => exact .inl rfl
  | launch h ih => simp_all
  | done h ih => cases e <;> simp_all [Task.ending]
  | panic h ih => cases e <;> simp_all [Task.ending]
  | call k h ih => cases e <;> simp_all [Task.ending]
  | tell h ih => cases e <;> simp_all [Task.ending]
  | reply h hr ih => simp_all
  | lost h hm ih => simp_all

section Verdict

variable {client : Client} {config : Config} {lane : Lane} {endings : List Ending} {watch : Bool}
  {course : Course} {world : World}

/-- A unit that has been collected ended as it was meant to. -/
theorem ending_of_taken {m : Machine} {i : Nat} {e : Ending}
    (h : m.TakenAt client world (endings.map Task.ending) i e) : endings[i]? = some e := by
  obtain ⟨-, t, htask, hlived⟩ := h
  rw [List.getElem?_map] at htask
  obtain ⟨e', he', rfl⟩ := Option.map_eq_some_iff.mp htask
  rcases hlived.ending with h | h | h
  · cases h
  · cases h
  · rw [he', Phase.ended.inj h]

/-- A run of units ends with a panic of one of them, or collects the results of all of them in their
order, which are then accounted for. -/
theorem run_of_endings (client : Client) (hbuild : config.Buildable) (lane : Lane)
    (endings : List Ending) (watch : Bool) (course : Course) (world : World) :
    (∃ i message, endings[i]? = some (.error message) ∧
        (runTasks client config lane (endings.map Task.ending) watch course world).outcome =
          .error (.failure (panicFailure i message))) ∨
      ∃ report : Report, report.submitted = endings.length ∧
        (runOrder client config lane (endings.map Task.ending) watch course world).Perm
          (List.range endings.length) ∧
        List.Forall₂ (fun i r => endings[i]? = some (.ok r))
          (runOrder client config lane (endings.map Task.ending) watch course world)
          report.results ∧
        (runTasks client config lane (endings.map Task.ending) watch course world).outcome =
          match checkAccounting endings.length report.results with
          | .ok () => .ok report
          | .error fault => .error (.failure fault.failure) := by
  obtain ⟨m, early, late, hfinished, hend⟩ := runTasks_spec client hbuild lane
    (endings.map Task.ending) watch course world
  rcases hend with ⟨i, message, hpanicked, hrun⟩ | ⟨hcalm, peak, hrun⟩
  · exact .inl ⟨i, message, ending_of_taken (hfinished.traced.panicked i message hpanicked),
      by rw [hrun, Run.failed]⟩
  · refine .inr ⟨⟨endings.length, course.timings, m.results.toList, peak⟩, rfl, ?_,
      hfinished.traced.results.imp fun i r htaken => ending_of_taken htaken, ?_⟩
    · simpa using hfinished.all hcalm
    · rw [hrun, List.length_map]
      rfl

/-- Units of which none panics have all returned. -/
theorem exists_results (h : ∀ message, .error message ∉ endings) :
    ∃ rs : List WorkerResult, endings = rs.map .ok := by
  induction endings with
  | nil => exact ⟨[], rfl⟩
  | cons e endings ih =>
    obtain ⟨rs, hrs⟩ := ih fun message hmem => h message (List.mem_cons_of_mem _ hmem)
    cases e with
    | ok r => exact ⟨r :: rs, by rw [hrs, List.map_cons]⟩
    | error message => exact absurd List.mem_cons_self (h message)

/-- What is known of a run of the units with these endings: it succeeds exactly when none of them
panics and their ids are those of all workers, each once, and then its results are what the units
returned, in the order in which they were collected. A panic fails it as a lost worker, whatever
else was returned; without one, wrong ids fail it as accounts that name an id. -/
structure Judged (workers : UInt32) (endings : List Ending) (order : List Nat)
    (story : List Milestone) (outcome : Except Abort Report) : Prop where
  succeeds : (∃ report, outcome = .ok report) ↔
    ∃ rs : List WorkerResult, endings = rs.map .ok ∧ (rs.map (·.id)).Perm (workerIds workers)
  results : ∀ report, outcome = .ok report →
    report.submitted = workers.toNat ∧ report.completed = workers.toNat ∧
      order.Perm (List.range workers.toNat) ∧
      List.Forall₂ (fun i r => endings[i]? = some (.ok r)) order report.results
  story : ∀ report, outcome = .ok report →
    takesOf story = order ∧ (endsOf story).Perm (List.range workers.toNat) ∧
      (∀ i ∈ order, [.ended i, .collected i].Sublist story) ∧
      (Prompt story → order = endsOf story)
  panics : (∃ message, .error message ∈ endings) →
    ∃ f, outcome = .error (.failure f) ∧ f.cause = .worker ∧
      ∃ i message, endings[i]? = some (.error message) ∧ f = panicFailure i message
  accounts : ∀ rs : List WorkerResult, endings = rs.map .ok →
    ¬ (rs.map (·.id)).Perm (workerIds workers) →
    ∃ f, outcome = .error (.failure f) ∧ f.cause = .accounting ∧
      ∃ fault : AccountingFault, f = fault.failure ∧
        ∃ id ∈ rs.map (·.id), fault = .repeated id ∨ fault = .outside id workers.toNat

/-- Every run of units whose pool is built is judged so. -/
theorem judged_of_buildable (client : Client) (hbuild : config.Buildable) (lane : Lane)
    (workers : UInt32) (unit : UInt32 → Ending) (watch : Bool) (course : Course) (world : World) :
    let endings := (workerIds workers).map unit
    Judged workers endings
      (runOrder client config lane (endings.map Task.ending) watch course world)
      (runStory client config lane (endings.map Task.ending) watch course world)
      (runTasks client config lane (endings.map Task.ending) watch course world).outcome := by
  intro endings
  have hlength : endings.length = workers.toNat := by simp [endings, length_workerIds]
  obtain ⟨outcome, houtcome⟩ : ∃ outcome, (runTasks client config lane (endings.map Task.ending)
    watch course world).outcome = outcome := ⟨_, rfl⟩
  have hrun := run_of_endings client hbuild lane endings watch course world
  rw [houtcome] at hrun ⊢
  rcases hrun with ⟨i, message, hi, rfl⟩ | ⟨report, hsubmitted, hperm, hresults, hreport⟩
  · -- A panic was collected, so not all units have returned.
    have hnot : ∀ rs : List WorkerResult, endings ≠ rs.map .ok := fun rs hrs => by
      simp [hrs] at hi
    exact
      { succeeds := ⟨fun ⟨report, h⟩ => (nomatch h), fun ⟨rs, hrs, _⟩ => absurd hrs (hnot rs)⟩
        results := fun report h => (nomatch h)
        story := fun report h => (nomatch h)
        panics := fun _ => ⟨_, rfl, rfl, i, message, hi, rfl⟩
        accounts := fun rs hrs => absurd hrs (hnot rs) }
  · -- All results were collected: they are what all units returned.
    have hreturned : (report.results.map (Except.ok : WorkerResult → Ending)).Perm endings :=
      map_perm_of_order hperm hresults
    have hcalm : ∀ message, .error message ∉ endings := fun message hmem => by
      simpa using hreturned.mem_iff.mpr hmem
    have hids : ∀ rs : List WorkerResult, endings = rs.map .ok →
        (report.results.map (·.id)).Perm (rs.map (·.id)) := fun rs hrs => by
      rw [hrs] at hreturned
      have hsame := (List.map_perm_map_iff fun r r' h => Except.ok.inj h).mp hreturned
      exact hsame.map _
    have hstory := story_of_run hbuild lane (endings.map Task.ending) watch course world rfl
      (by simpa using hperm)
    rw [List.length_map, hlength] at hstory
    rw [hlength] at hreport hperm hsubmitted
    cases haccount : checkAccounting workers.toNat report.results with
    | ok =>
      rw [haccount] at hreport
      subst hreport
      have haccounted := checkAccounting_ok_iff.mp haccount
      obtain ⟨rs, hrs⟩ := exists_results hcalm
      exact
        { succeeds := ⟨fun _ => ⟨rs, hrs, (hids rs hrs).symm.trans haccounted⟩,
            fun _ => ⟨report, rfl⟩⟩
          results := fun report' h => by
            obtain rfl := Except.ok.inj h
            refine ⟨hsubmitted, ?_, hperm, hresults⟩
            rw [Report.completed, ← hresults.length_eq, hperm.length_eq, List.length_range]
          story := fun _ _ => hstory
          panics := fun ⟨message, hmem⟩ => absurd hmem (hcalm message)
          accounts := fun rs hrs hids' => absurd ((hids rs hrs).symm.trans haccounted) hids' }
    | error fault =>
      rw [haccount] at hreport
      subst hreport
      have hcount : report.results.length = workers.toNat := by
        rw [← hresults.length_eq, hperm.length_eq, List.length_range]
      obtain ⟨id, hmem, hfault⟩ := checkAccounting_error hcount haccount
      refine
        { succeeds := ⟨fun ⟨report, h⟩ => (nomatch h), fun ⟨rs, hrs, hids'⟩ => ?_⟩
          results := fun report h => (nomatch h)
          story := fun report h => (nomatch h)
          panics := fun ⟨message, hmem⟩ => absurd hmem (hcalm message)
          accounts := fun rs hrs _ => ⟨_, rfl, rfl, fault, rfl, id,
            (hids rs hrs).mem_iff.mp hmem, hfault.symm⟩ }
      have := checkAccounting_ok_iff.mpr ((hids rs hrs).trans hids')
      rw [haccount] at this
      cases this

/-- Whatever course a run of units takes on a pool with room for a unit and a thread: if a semaphore
has permits for that room, the run is judged by what its units return, and every order has a course
that collects in it, up to the first panic. If it has not, the run panics before anything is
submitted. -/
theorem verdict_of_endings (client : Client) {config : Config} (hc : 1 ≤ config.capacity)
    (ht : 1 ≤ config.threads) (lane : Lane) (workers : UInt32) (unit : UInt32 → Ending)
    (watch : Bool) (course : Course) (world : World) :
    let endings := (workerIds workers).map unit
    let tasks := endings.map Task.ending
    let run := runTasks client config lane tasks watch course world
    (config.capacity.toNat < 2 ^ 61 →
      Judged workers endings (runOrder client config lane tasks watch course world)
          (runStory client config lane tasks watch course world) run.outcome ∧
        ∀ order' : List Nat, order'.Perm (List.range workers.toNat) →
          ∃ course', runOrder client config lane tasks watch course' world =
            order'.takeWhile fun i => endings[i]?.any Except.isOk) ∧
      (2 ^ 61 ≤ config.capacity.toNat →
        run.outcome = .error (.panic
            "a semaphore may not have more than MAX_PERMITS permits (2305843009213693951)") ∧
          world.toldSince run.world = []) := by
  intro endings tasks run
  have hvalid : config.validate = .ok () :=
    Config.validate_eq_ok_iff.mpr ⟨UInt64.le_iff_toNat_le.mp hc, UInt64.le_iff_toNat_le.mp ht⟩
  constructor
  · intro hroom
    have hbuild := Config.buildable_of_validate hvalid hroom
    refine ⟨judged_of_buildable client hbuild lane workers unit watch course world,
      fun order' horder' => ⟨Course.inOrder order', ?_⟩⟩
    have hlength : endings.length = workers.toNat := by simp [endings, length_workerIds]
    exact runOrder_inOrder client hbuild lane endings watch world (hlength ▸ horder')
  · intro hcrowd
    have hrun : run = _ := runTasks_of_unbuilt client
      (Config.build_of_crowded hvalid hcrowd) lane tasks watch course world
    rw [hrun]
    refine ⟨rfl, ?_⟩
    cases watch <;> exact World.toldSince_self

/-- Two workers that answer under each other's ids succeed on a pool for one of them. -/
theorem verdict_of_swapped :
    ∃ report, (runTasks noClient ⟨.cpu, 1, 1⟩ .thread
      (((workerIds 2).map fun id => .ok ⟨3 - id, .sum 0⟩).map Task.ending) false {} {}).outcome =
        .ok report :=
  ((verdict_of_endings noClient (by decide) (by decide) .thread 2
    (fun id => .ok ⟨3 - id, .sum 0⟩) false {} {}).1 (by decide)).1.succeeds.mpr
      ⟨[⟨2, .sum 0⟩, ⟨1, .sum 0⟩], by decide, by decide⟩

/-- Two units that return their ids. -/
def twoUnits : List Task := [.done ⟨1, .sum 10⟩, .done ⟨2, .sum 20⟩]

/-- A course in which the second of two units ends first, and neither is collected before the other
has ended. -/
def backwards : Course where
  late := [.move (.launch 0), .move (.launch 1), .move (.advance 1), .move (.advance 0)]

/-- Two units that return succeed on no pool with room for 2305843009213693952 units: it panics. And
on a pool for two units, the second of them may end first and still be collected last. -/
theorem verdict_of_crowd :
    (runTasks noClient ⟨.cpu, 2305843009213693952, 1⟩ .thread twoUnits false {} {}).outcome =
        .error (.panic
          "a semaphore may not have more than MAX_PERMITS permits (2305843009213693951)") ∧
      endsOf (runStory noClient ⟨.cpu, 2, 1⟩ .thread twoUnits false backwards {}) = [1, 0] ∧
      ∃ report, (runTasks noClient ⟨.cpu, 2, 1⟩ .thread twoUnits false backwards {}).outcome =
          .ok report ∧
        report.results = [⟨1, .sum 10⟩, ⟨2, .sum 20⟩] := by
  refine ⟨?_, by decide +kernel, _, rfl, rfl⟩
  rw [runTasks_of_unbuilt noClient (Config.build_of_crowded (by decide) (by decide))]

end Verdict

end BenchRig.Pool
