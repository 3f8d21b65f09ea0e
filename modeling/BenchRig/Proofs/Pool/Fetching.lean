import BenchRig.Proofs.Pool.Conservation
import BenchRig.Proofs.Pool.Run
import BenchRig.Proofs.Pool.Worker
import BenchRig.Proofs.Result.Accounting
import BenchRig.Proofs.Result.Tally

/-!
# Fetching

All workers of a plan share one client, and which of them takes which of its answers is up to the
course. What they record together is what the client answered, whoever asked.
-/

namespace BenchRig.Pool

/-! ## Plans -/

/-- A plan that is accepted has workers, and each of them makes calls. -/
theorem pos_of_validate {plan : FetchPlan} (h : plan.validate = .ok ()) :
    0 < plan.workers.toNat ∧ 0 < plan.attempts.toNat := by
  have hcheck : plan.check = .ok () := by
    unfold FetchPlan.validate at h
    cases hc : plan.check with
    | ok u => rfl
    | error f =>
      rw [hc] at h
      cases h
  cases hworkers : checkWorkers plan.workers with
  | error f => simp [FetchPlan.check, hworkers, bind, Except.bind] at hcheck
  | ok u =>
    refine ⟨UInt32.pos_iff_ne_zero.mpr fun hzero => ?_, UInt32.pos_iff_ne_zero.mpr fun hzero => ?_⟩
    · simp [checkWorkers, hzero] at hworkers
    · simp [FetchPlan.check, hworkers, hzero, bind, Except.bind] at hcheck

/-- Two workers that make two calls each to the machine they run on are a plan. -/
theorem validate_loopback :
    FetchPlan.validate { workers := 2, attempts := 2, endpoint := "http://[::1]" } = .ok () := by
  rfl

theorem length_fetchTasks (plan : FetchPlan) : (fetchTasks plan).length = plan.workers.toNat := by
  simp [fetchTasks, length_workerIds]

theorem getElem?_fetchTasks {plan : FetchPlan} {i : Nat} {t : Task}
    (h : (fetchTasks plan)[i]? = some t) :
    i < plan.workers.toNat ∧
      t = fetchFrom (UInt32.ofNat (i + 1)) plan.endpoint plan.attempts.toNat 1 [] := by
  have hi : i < plan.workers.toNat :=
    length_fetchTasks plan ▸ (List.getElem?_eq_some_iff.mp h).1
  refine ⟨hi, ?_⟩
  rw [fetchTasks, workerIds, List.map_map, List.getElem?_map, List.getElem?_range hi] at h
  exact (Option.some.inj h).symm

/-! ## Workers -/

/-- The worker at place `i` of a plan has answered with `r`, after `replies` to all its calls, of
which it has told the failures. -/
structure Fetched (client : Client) (plan : FetchPlan) (base w : World) (i : Nat)
    (r : WorkerResult) (replies : List Reply) : Prop where
  answered : Answered client i plan.endpoint (base.callsBy w i) replies
  length : replies.length = plan.attempts.toNat
  told : base.toldBy w i = fetchTold i (UInt32.ofNat (i + 1)) replies
  result : r = ⟨UInt32.ofNat (i + 1), .requests (fetchOutcomes replies)⟩

section Workers

variable {client : Client} {plan : FetchPlan} {base w : World} {m : Machine} {i : Nat}
  {order : List Nat} {rs : List WorkerResult}

/-- A worker of a plan is at a phase of its fetching. -/
theorem fetchPhase_of_livedAt {p : Phase} (h : m.LivedAt client base (fetchTasks plan) i p) :
    FetchPhase client i plan.endpoint (UInt32.ofNat (i + 1)) plan.attempts.toNat
      (base.callsBy m.world i) (base.toldBy m.world i) p := by
  obtain ⟨t, htask, hlived⟩ := h
  obtain ⟨-, rfl⟩ := getElem?_fetchTasks htask
  exact hlived.fetching

theorem fetched_of_takenAt {r : WorkerResult}
    (h : m.TakenAt client base (fetchTasks plan) i (.ok r)) :
    ∃ replies, Fetched client plan base m.world i r replies := by
  obtain ⟨replies, hanswered, hlength, htold, hr⟩ := fetchPhase_of_livedAt h.2
  exact ⟨replies, hanswered, hlength, htold, hr⟩

/-- No worker makes more calls than planned. -/
theorem length_callsBy_le {order : List Nat} (ht : Traced client base (fetchTasks plan) m order)
    (hi : i < plan.workers.toNat) : (base.callsBy m.world i).length ≤ plan.attempts.toNat := by
  obtain ⟨p, hlived⟩ := ht.lived (length_fetchTasks plan ▸ hi)
  have hphase := fetchPhase_of_livedAt hlived
  cases p with
  | waiting t => simp [hphase.1]
  | active t =>
    obtain ⟨replies, left, events, hanswered, hleft, -, -⟩ := hphase
    rw [hanswered.length]
    omega
  | calling k next =>
    obtain ⟨replies, left, before, hcalls, hanswered, hleft, -, -⟩ := hphase
    rw [hcalls, List.length_append, hanswered.length, List.length_singleton]
    omega
  | ended e =>
    cases e with
    | ok r =>
      obtain ⟨replies, hanswered, hlength, -, -⟩ := hphase
      exact Nat.le_of_eq (hanswered.length.trans hlength)
    | error message =>
      obtain ⟨replies, before, k, hcalls, hanswered, hle, -, -⟩ := hphase
      rw [hcalls, List.length_append, hanswered.length, List.length_singleton]
      exact hle
  | collected => exact hphase.elim

/-- The ids of the results are those of the workers in the order of collection. -/
theorem ids_of_fetched
    (h : List.Forall₂ (fun i r => ∃ replies, Fetched client plan base w i r replies) order rs) :
    rs.map (·.id) = order.map fun i => UInt32.ofNat (i + 1) := by
  induction h with
  | nil => rfl
  | cons hr _ ih =>
    obtain ⟨replies, hfetched⟩ := hr
    rw [List.map_cons, List.map_cons, ih, hfetched.result]

theorem checkAccounting_of_fetched (horder : order.Perm (List.range plan.workers.toNat))
    (h : List.Forall₂ (fun i r => ∃ replies, Fetched client plan base w i r replies) order rs) :
    checkAccounting plan.workers.toNat rs = .ok () := by
  refine checkAccounting_ok_iff.mpr ?_
  rw [ids_of_fetched h, workerIds]
  exact horder.map _

theorem checkAttempts_of_fetched
    (h : List.Forall₂ (fun i r => ∃ replies, Fetched client plan base w i r replies) order rs) :
    checkAttempts plan.attempts rs = .ok () := by
  refine checkAttempts_ok_iff.mpr fun r hr => ?_
  obtain ⟨i, -, replies, hfetched⟩ := exists_of_forall₂ h.flip hr
  rw [hfetched.result]
  exact (length_fetchOutcomes replies).trans hfetched.length

end Workers

/-! ## Runs -/

section Runs

variable {processors : UInt32} {tracking : Bool} {client : Client} {watch : Bool} {course : Course}
  {plan : FetchPlan} {world w : World}

theorem calls_warned : (warned tracking watch world).calls = world.calls := by
  unfold warned
  dsimp only
  split_ifs <;> simp [World.tell]

/-- Where the units of a plan fail, its run fails in the same way. -/
theorem fetch_of_failed (hplan : plan.validate = .ok ()) {f : Failure}
    (h : runTasks client (.io processors plan.workers) .permit (fetchTasks plan) watch course
      (warned tracking watch world) = .failed w f) :
    fetch processors tracking client watch course plan world = .failed w f := by
  simp only [fetch, hplan, h, Run.failed, Run.check, Except.bind]

/-- Where they have made as many attempts as planned, the log is told of the tally at last. -/
theorem fetch_of_report (hplan : plan.validate = .ok ()) {report : Report}
    (h : runTasks client (.io processors plan.workers) .permit (fetchTasks plan) watch course
      (warned tracking watch world) = ⟨w, .ok report⟩)
    (hattempts : checkAttempts plan.attempts report.results = .ok ()) :
    fetch processors tracking client watch course plan world =
      ⟨w.tell .dispatcher (.tally report.tally), .ok report⟩ := by
  simp only [fetch, hplan, h, Run.check, Except.bind, hattempts]

end Runs

/-- A run of a plan ends with the panic of one of its workers, or with an answer of each of them,
of which the tally is told at last. -/
theorem fetch_spec (processors : UInt32) (tracking : Bool) (client : Client) (watch : Bool)
    (course : Course) {plan : FetchPlan} (hplan : plan.validate = .ok ()) (world : World) :
    ∃ m order early late,
      Finished client (.io processors plan.workers) (fetchTasks plan) course.timings.submit
        (warned tracking watch world) m order early late ∧
      ((∃ i message, m.panicked = some (i, message) ∧
          fetch processors tracking client watch course plan world =
            .failed m.world (panicFailure i message)) ∨
        (order.Perm (List.range plan.workers.toNat) ∧
          List.Forall₂ (fun i r => ∃ replies,
              Fetched client plan (warned tracking watch world) m.world i r replies)
            order m.results.toList ∧
          ∃ report : Report, report.submitted = plan.workers.toNat ∧
            report.results = m.results.toList ∧
            fetch processors tracking client watch course plan world =
              ⟨m.world.tell .dispatcher (.tally report.tally), .ok report⟩)) := by
  obtain ⟨m, early, late, hfinished, hend⟩ := runTasks_spec client
    (Config.buildable_io processors plan.workers) .permit (fetchTasks plan) watch course
    (warned tracking watch world)
  refine ⟨m, _, early, late, hfinished, ?_⟩
  rcases hend with ⟨i, message, hpanicked, hrun⟩ | ⟨hcalm, peak, hrun⟩
  · exact .inl ⟨i, message, hpanicked, fetch_of_failed hplan hrun⟩
  · have horder := hfinished.all hcalm
    rw [length_fetchTasks] at horder
    have hfetched := hfinished.traced.results.imp fun i r htaken => fetched_of_takenAt htaken
    refine .inr ⟨horder, hfetched,
      ⟨plan.workers.toNat, course.timings, m.results.toList, peak⟩, rfl, rfl, ?_⟩
    refine fetch_of_report hplan ?_ (checkAttempts_of_fetched hfetched)
    rw [hrun, length_fetchTasks]
    simp only [Run.check, Except.bind, checkAccounting_of_fetched horder hfetched]

end BenchRig.Pool
