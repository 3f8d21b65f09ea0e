import BenchRig.Proofs.Pool.Notes
import BenchRig.Proofs.Pool.Script

/-!
# The log of a fetching run

The dispatcher and all workers write to one log. Whatever course a run takes, its log agrees with
its report: it counts the results in their order, and has every failure once, in front of the
completion of its worker.
-/

namespace BenchRig.Pool

open Log (DispatchEvent)

/-! ## What is written -/

/-- What is written about the failed requests of a worker, in the order of its requests. -/
def failureNotes (r : WorkerResult) : List Note :=
  r.outcomes.filterMap fun
    | .success _ _ => none
    | .failed attempt error => some (.failed r.id attempt error)

/-- What is written of a run of as many workers, but for its tally: that nothing counts what is to
be watched, that a pool has been created, that all workers have been submitted, and what comes in
between and after it. -/
def runNotes (tracking watch : Bool) (workers : Nat) (ms : Float) (early late : List Note) :
    List Note :=
  (if watch ∧ ¬ tracking then [.untracked] else []) ++
    .created .io workers :: (early ++ .submitted workers ms :: late)

/-- What is written before and after the submission agrees with results: the dispatcher tells of
nothing but their completions, in their order and numbered, and workers tell of nothing but
failures. Those of a worker with a result are all told before its completion, in the order of its
requests. -/
structure Journal (workers : Nat) (results : List WorkerResult) (early late : List Note) :
    Prop where
  submitting : ∀ n ∈ early, ∃ id attempt error, n = .failed id attempt error
  waiting : ∀ n ∈ late, n.teller ≠ .dispatcher → ∃ id attempt error, n = .failed id attempt error
  completions : late.filter (fun n => n.teller = .dispatcher) =
    results.mapIdx fun k r => .completed r.id (k + 1) workers
  closed : ∀ k r, results[k]? = some r →
    ∃ before after, late = before ++ .completed r.id (k + 1) workers :: after ∧
      (early ++ before).filter (fun n => n.teller = .worker (r.id.toNat - 1)) = failureNotes r ∧
      ∀ n ∈ after, n.teller ≠ .worker (r.id.toNat - 1)
  ascending : ∀ r ∈ results, (r.outcomes.map (·.attempt)).Pairwise (· < ·)

/-! ## What the log is told -/

/-- What the log is told before a run starts. -/
def warning (tracking watch : Bool) : List (Teller × DispatchEvent) :=
  if watch ∧ ¬ tracking then [(.dispatcher, .memoryUntracked)] else []

/-- What one of `n` workers tells of a failed request. -/
def IsFailure (n : Nat) (t : Teller × DispatchEvent) : Prop :=
  ∃ i < n, ∃ attempt error, t = (.worker i, .attemptFailed (UInt32.ofNat (i + 1)) attempt error)

/-- The place of a worker that tells the log. -/
def Teller.place : Teller → Nat
  | dispatcher => 0
  | worker i => i

section Told

variable {client : Client} {tasks : List Task} {plan : FetchPlan} {base w : World} {m : Machine}
  {order : List Nat} {early late : List (Teller × DispatchEvent)} {tracking watch : Bool}

theorem extends_warned (tracking watch : Bool) (world : World) :
    world.Extends (warned tracking watch world) := by
  have htrack : world.Extends (world.track tracking) := ⟨by simp, by simp⟩
  unfold warned
  dsimp only
  split_ifs
  · exact htrack.tell _ _
  · exact htrack

theorem toldSince_warned {world : World} (h : (warned tracking watch world).Extends w) :
    world.toldSince w = warning tracking watch ++ (warned tracking watch world).toldSince w := by
  have htrack : world.Extends (world.track tracking) := ⟨by simp, by simp⟩
  have hnone : world.toldSince (world.track tracking) = [] := by simp [World.toldSince]
  have hwarning : world.toldSince (warned tracking watch world) = warning tracking watch := by
    unfold warned warning
    dsimp only
    split_ifs
    · rw [World.toldSince_tell htrack, hnone, List.nil_append]
    · exact hnone
  rw [World.toldSince_append (extends_warned tracking watch world) h, hwarning]

/-- What units have told the log, unit by unit. -/
theorem Traced.told_perm (ht : Traced client base tasks m order) :
    ((List.range tasks.length).flatMap (base.toldBy m.world)).Perm
      ((base.toldSince m.world).filter fun t => t.1 ≠ .dispatcher) := by
  have hparts := flatMap_filter_perm (fun t : Teller × DispatchEvent => t.1.place)
    (n := tasks.length) (l := (base.toldSince m.world).filter fun t => t.1 ≠ .dispatcher)
    fun t hmem => by
      obtain ⟨hmem, hteller⟩ := List.mem_filter.mp hmem
      cases hworker : t.1 with
      | dispatcher => simp [hworker] at hteller
      | worker i => exact ht.tellers t hmem i hworker
  have hpart : ∀ i, ((base.toldSince m.world).filter fun t => t.1 ≠ .dispatcher).filter
      (fun t => t.1.place = i) = base.toldBy m.world i := by
    intro i
    rw [List.filter_filter, World.toldBy]
    refine List.filter_congr fun t _ => ?_
    cases hworker : t.1 with
    | dispatcher => simp
    | worker j => by_cases hij : j = i <;> simp [Teller.place, hij]
  simpa only [hpart] using hparts

/-- Whoever tells the log and is not the dispatcher is a worker with a failed request. -/
theorem isFailure_of_mem (ht : Traced client base (fetchTasks plan) m order)
    {t : Teller × DispatchEvent} (hmem : t ∈ base.toldSince m.world) (hteller : t.1 ≠ .dispatcher) :
    IsFailure plan.workers.toNat t := by
  cases hworker : t.1 with
  | dispatcher => exact absurd hworker hteller
  | worker i =>
    have hi := ht.tellers t hmem i hworker
    obtain ⟨p, hlived⟩ := ht.lived hi
    have hby : t ∈ base.toldBy m.world i := List.mem_filter.mpr ⟨hmem, decide_eq_true hworker⟩
    obtain ⟨attempt, error, rfl⟩ := (fetchPhase_of_livedAt hlived).failure_of_mem hby
    exact ⟨i, length_fetchTasks plan ▸ hi, attempt, error, rfl⟩

end Told

/-! ## Notes of workers -/

section Notes

variable {client : Client} {plan : FetchPlan} {base w : World} {i : Nat} {r : WorkerResult}
  {replies : List Reply} {order : List Nat} {rs : List WorkerResult}

theorem failed_of_isFailure {workers : UInt32} {t : Teller × DispatchEvent}
    (h : IsFailure workers.toNat t) :
    ∃ id attempt error, Note.ofTold t = .failed id attempt error := by
  obtain ⟨i, hi, attempt, error, rfl⟩ := h
  exact ⟨_, attempt, error, Note.ofTold_failed (toNat_workerId hi) attempt error⟩

/-- What is written of what a worker has told is what failed in its result. -/
theorem notes_of_fetched (h : Fetched client plan base w i r replies)
    (hi : i < plan.workers.toNat) : (base.toldBy w i).map Note.ofTold = failureNotes r := by
  have hall : ∀ outcomes : List Outcome,
      ((failureEvents (UInt32.ofNat (i + 1)) outcomes).map fun e => (Teller.worker i, e)).map
        Note.ofTold = failureNotes ⟨UInt32.ofNat (i + 1), .requests outcomes⟩ := by
    intro outcomes
    induction outcomes with
    | nil => rfl
    | cons o outcomes ih =>
      cases o with
      | success attempt status => exact ih
      | failed attempt error =>
        exact congrArg₂ (· :: ·) (Note.ofTold_failed (toNat_workerId hi) attempt error) ih
  rw [h.told, h.result]
  exact hall _

/-- The place of a worker, by its id. -/
theorem place_of_fetched (h : Fetched client plan base w i r replies)
    (hi : i < plan.workers.toNat) : r.id.toNat - 1 = i := by
  rw [h.result, toNat_workerId hi, Nat.add_sub_cancel]

/-- The requests of a worker are numbered upwards. -/
theorem ascending_of_fetched (h : Fetched client plan base w i r replies) :
    (r.outcomes.map (·.attempt)).Pairwise (· < ·) := by
  rw [h.result]
  change ((fetchOutcomes replies).map (·.attempt)).Pairwise (· < ·)
  rw [attempts_fetchOutcomes, h.length, List.pairwise_map]
  refine List.pairwise_lt_range.imp_of_mem fun hj hj' hlt => ?_
  rw [UInt32.lt_iff_toNat_lt, toNat_workerId (List.mem_range.mp hj),
    toNat_workerId (List.mem_range.mp hj')]
  omega

/-- What is written of what all workers have told is what failed in their results. -/
theorem notes_of_allFetched
    (h : List.Forall₂ (fun i r => ∃ replies, Fetched client plan base w i r replies) order rs)
    (hplaces : ∀ i ∈ order, i < plan.workers.toNat) :
    (order.flatMap (base.toldBy w)).map Note.ofTold = rs.flatMap failureNotes := by
  induction h with
  | nil => rfl
  | cons hr _ ih =>
    obtain ⟨replies, hfetched⟩ := hr
    rw [List.flatMap_cons, List.flatMap_cons, List.map_append,
      notes_of_fetched hfetched (hplaces _ List.mem_cons_self),
      ih fun i hi => hplaces i (List.mem_cons_of_mem _ hi)]

/-- As many failures are written as the tally counts. -/
theorem length_failureNotes (rs : List WorkerResult) :
    (rs.flatMap failureNotes).length = (Tally.ofResults rs).failed := by
  have hone : ∀ r : WorkerResult,
      (failureNotes r).length = r.outcomes.countP fun o => !o.isSuccess := by
    intro r
    rw [failureNotes, List.length_filterMap_eq_countP]
    refine List.countP_congr fun o _ => ?_
    cases o with
    | success attempt status => simp [Outcome.isSuccess]
    | failed attempt error => simp [Outcome.isSuccess]
  rw [Tally.failed_ofResults, List.length_flatMap, List.countP_flatMap]
  exact congrArg List.sum (List.map_congr_left fun r _ => hone r)

end Notes

/-! ## Journals -/

section Runs

variable {client : Client} {plan : FetchPlan} {base : World} {m : Machine} {order : List Nat}
  {early late : List (Teller × DispatchEvent)} {ms : Float} {config : Config}

/-- The workers of which results have been collected, each with its result. -/
theorem fetched_of_finished
    (h : Finished client config (fetchTasks plan) ms base m order early late) :
    List.Forall₂ (fun i r => i < plan.workers.toNat ∧
      ∃ replies, Fetched client plan base m.world i r replies) order m.results.toList := by
  have hplaces : ∀ i ∈ order, i < plan.workers.toNat := fun i hi => by
    rw [← length_fetchTasks]
    exact h.traced.lt_of_mem hi
  exact (List.forall₂_and_left order _).mpr
    ⟨hplaces, h.traced.results.imp fun i r htaken => fetched_of_takenAt htaken⟩

/-- What a unit tells, it tells before the submission or after it. -/
theorem toldBy_of_finished
    (h : Finished client config (fetchTasks plan) ms base m order early late) (i : Nat) :
    base.toldBy m.world i = (early ++ late).filter fun t => t.1 = .worker i := by
  rw [World.toldBy, h.told]
  simp

theorem mem_of_finished (h : Finished client config (fetchTasks plan) ms base m order early late)
    {t : Teller × DispatchEvent} (ht : t ∈ early ++ late) : t ∈ base.toldSince m.world := by
  rw [h.told]
  rcases List.mem_append.mp ht with ht | ht
  · simp [ht]
  · simp [ht]

/-- The log of a run that is over agrees with the results that it has collected, be they all or
not. -/
theorem journal_of_finished
    (h : Finished client config (fetchTasks plan) ms base m order early late) :
    Journal plan.workers.toNat m.results.toList (early.map Note.ofTold)
      (late.map Note.ofTold) := by
  have hcompletions := h.completions
  have hquiet := h.quiet
  rw [length_fetchTasks] at hcompletions hquiet
  have hfetched := fetched_of_finished h
  have hworker : ∀ t ∈ early ++ late, t.1 ≠ .dispatcher →
      ∃ id attempt error, Note.ofTold t = .failed id attempt error := fun t ht hteller =>
    failed_of_isFailure (isFailure_of_mem h.traced (mem_of_finished h ht) hteller)
  refine
    { submitting := fun n hn => ?_
      waiting := fun n hn hteller => ?_
      completions := ?_
      closed := fun k r hr => ?_
      ascending := fun r hr => ?_ }
  · obtain ⟨t, ht, rfl⟩ := List.mem_map.mp hn
    exact hworker t (List.mem_append_left _ ht) (h.early t ht)
  · obtain ⟨t, ht, rfl⟩ := List.mem_map.mp hn
    exact hworker t (List.mem_append_right _ ht) hteller
  · have hfilter : (late.map Note.ofTold).filter (fun n => n.teller = .dispatcher) =
        (late.filter fun t => t.1 = .dispatcher).map Note.ofTold := List.filter_map
    rw [hfilter, hcompletions]
    refine List.ext_getElem? fun k => ?_
    simp [completion, Note.ofTold_completed, Function.comp_def]
  · -- The completion is among the entries after the submission, and its worker is silent behind it.
    have hmem : completion plan.workers.toNat k r ∈ late := by
      refine List.mem_of_mem_filter (p := fun t => t.1 = .dispatcher) ?_
      rw [hcompletions, List.mem_mapIdx]
      obtain ⟨hk, rfl⟩ := List.getElem?_eq_some_iff.mp hr
      exact ⟨k, hk, rfl⟩
    obtain ⟨before, after, hsplit⟩ := List.append_of_mem hmem
    obtain ⟨i, hi, hsilent⟩ := hquiet before after k r hsplit
    obtain ⟨hlt, replies, hf⟩ := forall₂_getElem? hfetched hi hr
    have hafter : after.filter (fun t => t.1 = .worker i) = [] :=
      List.filter_eq_nil_iff.mpr fun t ht => by simpa using hsilent t ht
    have htold : base.toldBy m.world i = (early ++ before).filter fun t => t.1 = .worker i := by
      rw [toldBy_of_finished h, hsplit]
      simp [completion, hafter]
    rw [place_of_fetched hf hlt]
    refine ⟨before.map Note.ofTold, after.map Note.ofTold, ?_, ?_, fun n hn => ?_⟩
    · rw [hsplit, List.map_append, List.map_cons, completion, Note.ofTold_completed]
    · rw [← notes_of_fetched hf hlt, htold, ← List.map_append]
      exact List.filter_map
    · obtain ⟨t, ht, rfl⟩ := List.mem_map.mp hn
      exact hsilent t ht
  · obtain ⟨i, -, -, replies, hf⟩ := exists_of_forall₂ hfetched.flip hr
    exact ascending_of_fetched hf

/-- Where all workers have answered, their failures are those of the results. -/
theorem failures_perm (h : Finished client config (fetchTasks plan) ms base m order early late)
    (horder : order.Perm (List.range plan.workers.toNat)) :
    ((early.map Note.ofTold ++ late.map Note.ofTold).filter fun n => n.teller ≠ .dispatcher).Perm
      (m.results.toList.flatMap failureNotes) := by
  have hfetched := (List.forall₂_and_left order _).mp (fetched_of_finished h)
  have htold := h.traced.told_perm
  have hworkers : (base.toldSince m.world).filter (fun t => t.1 ≠ .dispatcher) =
      (early ++ late).filter fun t => t.1 ≠ .dispatcher := by
    rw [h.told]
    simp
  have hfilter : (early.map Note.ofTold ++ late.map Note.ofTold).filter
      (fun n => n.teller ≠ .dispatcher) =
        ((early ++ late).filter fun t => t.1 ≠ .dispatcher).map Note.ofTold := by
    rw [← List.map_append]
    exact List.filter_map
  rw [length_fetchTasks, hworkers] at htold
  rw [hfilter, ← notes_of_allFetched hfetched.2 hfetched.1]
  exact (htold.symm.trans (horder.symm.flatMap_right _)).map _

/-- The log of a run that is over, from before it was started. -/
theorem notes_of_finished {tracking watch : Bool} {processors : UInt32} {world : World}
    (hworkers : 0 < plan.workers.toNat)
    (h : Finished client (.io processors plan.workers) (fetchTasks plan) ms
      (warned tracking watch world) m order early late) :
    (world.toldSince m.world).map Note.ofTold =
      runNotes tracking watch plan.workers.toNat ms (early.map Note.ofTold)
        (late.map Note.ofTold) := by
  have hcapacity : (Config.io processors plan.workers).capacity.toNat = plan.workers.toNat := by
    rw [Config.io, Config.toNat_max_one]
    omega
  have hwarning : (warning tracking watch).map Note.ofTold =
      if watch ∧ ¬ tracking then [.untracked] else [] := by
    unfold warning
    split_ifs
    · rw [List.map_singleton, Note.ofTold_untracked]
    · rfl
  rw [toldSince_warned h.traced.ext, h.told, hcapacity, length_fetchTasks, runNotes, ← hwarning]
  simp only [List.map_append, List.map_cons, Note.ofTold_created, Note.ofTold_submitted]
  rfl

/-- A worker that has panicked has not answered, so that there are fewer results than workers. -/
theorem length_results_lt {i : Nat} {message : String}
    (ht : Traced client base (fetchTasks plan) m order)
    (hpanicked : m.panicked = some (i, message)) :
    m.results.toList.length < plan.workers.toNat := by
  obtain ⟨⟨lane, hjob⟩, -⟩ := ht.panicked i message hpanicked
  have hfresh : i ∉ order := by
    intro hmem
    obtain ⟨r, -, htaken⟩ := exists_of_forall₂ ht.results hmem
    obtain ⟨replies, hfetched⟩ := fetched_of_takenAt htaken
    obtain ⟨c, hc, hpanic⟩ := panic_of_taken (ht.panicked i message hpanicked)
    obtain ⟨-, reply, hreply⟩ := hfetched.answered.of_mem hc
    rw [hreply] at hpanic
    cases hpanic
  have hsub : i :: order ⊆ List.range plan.workers.toNat := by
    rw [← length_fetchTasks]
    exact List.cons_subset.mpr ⟨List.mem_range.mpr (ht.lt_of_job hjob), fun j hj =>
      List.mem_range.mpr (ht.lt_of_mem hj)⟩
  have hle := (List.subperm_of_subset (List.nodup_cons.mpr ⟨hfresh, ht.nodup⟩) hsub).length_le
  rw [List.length_cons, List.length_range, ht.results.length_eq] at hle
  exact hle

end Runs

/-- Whatever course a run of a plan takes, a logger at the level of debugging writes that the pool
was created, that the workers were submitted, and what else belongs to the run, each in a line of
its own. Where the client does not panic, all workers complete: the log agrees with the results of
the report, has a failure for each failed request in it, and ends with its tally. Where the client
panics, the log agrees with the results that have been collected, which are fewer than there are
workers, and has no tally. -/
theorem journal_of_fetch (processors : UInt32) (tracking : Bool) (client : Client) (watch : Bool)
    (course : Course) {plan : FetchPlan} (hplan : plan.validate = .ok ()) (world : World) :
    let run := fetch processors tracking client watch course plan world
    let numbers := List.range' world.calls.size (plan.workers.toNat * plan.attempts.toNat)
    let workers := plan.workers.toNat
    ∃ notes early late, Written (world.toldSince run.world) notes ∧
      ((∀ k ∈ numbers, ∀ message, client k ≠ .panic message) →
        ∃ report, run.outcome = .ok report ∧
          notes = runNotes tracking watch workers course.timings.submit early late ++
            [.tallied report.tally] ∧
          Journal workers report.results early late ∧
          (report.results.map (·.id)).Perm (workerIds plan.workers) ∧
          ((early ++ late).filter fun n => n.teller ≠ .dispatcher).Perm
            (report.results.flatMap failureNotes) ∧
          (report.results.flatMap failureNotes).length = report.tally.failed) ∧
      ((∃ k ∈ numbers, ∃ message, client k = .panic message) →
        notes = runNotes tracking watch workers course.timings.submit early late ∧
          ∃ results, results.length < workers ∧ Journal workers results early late) := by
  intro run numbers workers
  have hsucceeds := fetch_succeeds_iff processors tracking client watch course hplan world
  obtain ⟨hworkers, hattempts⟩ := pos_of_validate hplan
  obtain ⟨m, order, early, late, hfinished, hend⟩ :=
    fetch_spec processors tracking client watch course hplan world
  have hnotes := notes_of_finished hworkers hfinished
  have hjournal := journal_of_finished hfinished
  refine ⟨_, early.map Note.ofTold, late.map Note.ofTold, written_ofTold _, ?_⟩
  rcases hend with ⟨i, message, hpanicked, hrun⟩ | ⟨horder, hfetched, report, -, hresults, hrun⟩
  · have hrun : run = .failed m.world (panicFailure i message) := hrun
    refine ⟨fun hcalm => ?_, fun _ => ?_⟩
    · obtain ⟨report, h⟩ := hsucceeds.mpr hcalm
      have h : run.outcome = .ok report := h
      rw [hrun] at h
      cases h
    · rw [hrun]
      exact ⟨hnotes, m.results.toList, length_results_lt hfinished.traced hpanicked, hjournal⟩
  · have hrun : run = ⟨m.world.tell .dispatcher (.tally report.tally), .ok report⟩ := hrun
    refine ⟨fun _ => ⟨report, congrArg Run.outcome hrun, ?_, ?_, ?_, ?_, ?_⟩, ?_⟩
    · obtain ⟨-, htotal⟩ := tally_of_fetched hfinished.traced horder hfetched
      have hpos : 0 < report.tally.total := by
        rw [Report.tally, hresults, htotal]
        exact Nat.mul_pos hworkers hattempts
      have hext := (extends_warned tracking watch world).trans hfinished.traced.ext
      rw [hrun, World.toldSince_tell hext, List.map_append, hnotes, List.map_singleton,
        Note.ofTold_tallied hpos]
    · rw [hresults]
      exact hjournal
    · rw [hresults]
      exact checkAccounting_ok_iff.mp (checkAccounting_of_fetched horder hfetched)
    · rw [hresults]
      exact failures_perm hfinished horder
    · exact length_failureNotes report.results
    · rintro ⟨k, hk, message, hmessage⟩
      exact absurd hmessage (hsucceeds.mp ⟨report, congrArg Run.outcome hrun⟩ k hk message)

/-- Of two workers whose four calls all fail, the log ends with a warning. -/
theorem journal_of_fourFailures :
    ∃ (report : Report) (notes early late : List Note),
      Written (({} : World).toldSince (fetch 1 true (fun _ => .reply (.ok 500)) false {}
          { workers := 2, attempts := 2, endpoint := "http://[::1]" } {}).world) notes ∧
        notes = runNotes true false 2 0 early late ++ [.tallied report.tally] ∧
        (report.results.flatMap failureNotes).length = report.tally.failed := by
  obtain ⟨notes, early, late, hwritten, hcalm, -⟩ :=
    journal_of_fetch 1 true (fun _ => .reply (.ok 500)) false {} validate_loopback {}
  obtain ⟨report, -, hnotes, -, -, -, hcounted⟩ := hcalm fun k _ message h => by cases h
  exact ⟨report, notes, early, late, hwritten, hnotes, hcounted⟩

end BenchRig.Pool
