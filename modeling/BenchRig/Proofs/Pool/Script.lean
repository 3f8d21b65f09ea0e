import BenchRig.Proofs.Pool.Fetching

/-!
# Scripts of clients

A client that all workers share is a script of answers. A run of a plan takes as many of them as
there are calls in the plan, and fails exactly when one of these is a panic; its results record
every other one of them once.
-/

namespace BenchRig.Pool

/-- Whether a request that came to this answer succeeded. -/
def Answer.succeeds : Answer → Bool
  | .reply r => Pool.succeeds r
  | .panic _ => false

theorem length_flatMap_range {α : Type} {f : Nat → List α} {n a : Nat}
    (h : ∀ i < n, (f i).length = a) : ((List.range n).flatMap f).length = n * a := by
  induction n with
  | zero => simp
  | succ n ih =>
    rw [List.range_succ, List.flatMap_append, List.length_append,
      ih fun i hi => h i (Nat.lt_succ_of_lt hi), List.flatMap_singleton, h n (Nat.lt_succ_self n),
      Nat.succ_mul]

theorem length_flatMap_range_le {α : Type} {f : Nat → List α} {n a : Nat}
    (h : ∀ i < n, (f i).length ≤ a) : ((List.range n).flatMap f).length ≤ n * a := by
  induction n with
  | zero => simp
  | succ n ih =>
    rw [List.range_succ, List.flatMap_append, List.length_append, List.flatMap_singleton,
      Nat.succ_mul]
    exact Nat.add_le_add (ih fun i hi => h i (Nat.lt_succ_of_lt hi)) (h n (Nat.lt_succ_self n))

section Script

variable {client : Client} {plan : FetchPlan} {base w : World} {m : Machine} {i : Nat}
  {order : List Nat} {rs : List WorkerResult}

/-- Every call of a worker that has answered went to the endpoint, and was replied to. -/
theorem Answered.of_mem {url : String} {calls : List (Call × Nat)} {replies : List Reply}
    (h : Answered client i url calls replies) {c : Call × Nat} (hc : c ∈ calls) :
    c.1.url = url ∧ ∃ reply, client c.2 = .reply reply := by
  have hmem : (c.1, client c.2) ∈ replies.map fun reply =>
      ((⟨i, url⟩ : Call), Answer.reply reply) := by
    rw [← h]
    exact List.mem_map_of_mem hc
  obtain ⟨reply, -, heq⟩ := List.mem_map.mp hmem
  obtain ⟨hcall, hanswer⟩ := Prod.mk.inj heq
  exact ⟨by rw [← hcall], reply, hanswer.symm⟩

/-- A worker succeeds as often as its calls do. -/
theorem Fetched.countP_outcomes {r : WorkerResult} {replies : List Reply}
    (h : Fetched client plan base w i r replies) :
    r.outcomes.countP (·.isSuccess) =
      (base.callsBy w i).countP fun c => (client c.2).succeeds := by
  have hcalls := congrArg (List.countP fun p : Call × Answer => p.2.succeeds) h.answered
  rw [List.countP_map, List.countP_map] at hcalls
  rw [h.result]
  exact (countP_fetchOutcomes replies).trans hcalls.symm

theorem Fetched.length_outcomes {r : WorkerResult} {replies : List Reply}
    (h : Fetched client plan base w i r replies) :
    r.outcomes.length = (base.callsBy w i).length := by
  rw [h.result, h.answered.length]
  exact length_fetchOutcomes replies

/-- All workers together succeed as often as their calls do. -/
theorem countP_outcomes_of_fetched
    (h : List.Forall₂ (fun i r => ∃ replies, Fetched client plan base w i r replies) order rs) :
    (rs.flatMap (·.outcomes)).countP (·.isSuccess) =
      (order.flatMap (base.callsBy w)).countP fun c => (client c.2).succeeds := by
  induction h with
  | nil => rfl
  | cons hr _ ih =>
    obtain ⟨replies, hfetched⟩ := hr
    rw [List.flatMap_cons, List.flatMap_cons, List.countP_append, List.countP_append, ih,
      hfetched.countP_outcomes]

theorem length_outcomes_of_fetched
    (h : List.Forall₂ (fun i r => ∃ replies, Fetched client plan base w i r replies) order rs) :
    (rs.flatMap (·.outcomes)).length = (order.flatMap (base.callsBy w)).length := by
  induction h with
  | nil => rfl
  | cons hr _ ih =>
    obtain ⟨replies, hfetched⟩ := hr
    rw [List.flatMap_cons, List.flatMap_cons, List.length_append, List.length_append, ih,
      hfetched.length_outcomes]

/-- A unit that panicked took an answer that is a panic. -/
theorem panic_of_taken {message : String}
    (h : m.TakenAt client base (fetchTasks plan) i (.error message)) :
    ∃ c ∈ base.callsBy m.world i, client c.2 = .panic message := by
  obtain ⟨replies, before, k, hcalls, -, -, -, hk⟩ := fetchPhase_of_livedAt h.2
  exact ⟨_, hcalls ▸ List.mem_append_right _ (List.mem_singleton_self _), hk⟩

/-- A run makes no more calls than planned. -/
theorem length_callsSince_le (ht : Traced client base (fetchTasks plan) m order) :
    (base.callsSince m.world).length ≤ plan.workers.toNat * plan.attempts.toNat := by
  rw [← ht.calls_perm.length_eq, length_fetchTasks]
  exact length_flatMap_range_le fun i hi => length_callsBy_le ht hi

/-- A run in which all workers have answered makes as many calls as planned. -/
theorem length_callsSince (ht : Traced client base (fetchTasks plan) m order)
    (horder : order.Perm (List.range plan.workers.toNat))
    (h : List.Forall₂ (fun i r => ∃ replies, Fetched client plan base m.world i r replies)
      order rs) :
    (base.callsSince m.world).length = plan.workers.toNat * plan.attempts.toNat := by
  rw [← ht.calls_perm.length_eq, length_fetchTasks]
  refine length_flatMap_range fun i hi => ?_
  obtain ⟨r, -, replies, hfetched⟩ :=
    exists_of_forall₂ h (horder.mem_iff.mpr (List.mem_range.mpr hi))
  exact hfetched.answered.length.trans hfetched.length

/-- The calls of a run in which all workers have answered, in the order of collection. -/
theorem callsSince_perm (ht : Traced client base (fetchTasks plan) m order)
    (horder : order.Perm (List.range plan.workers.toNat)) :
    (order.flatMap (base.callsBy m.world)).Perm (base.callsSince m.world) := by
  have hcalls := ht.calls_perm
  rw [length_fetchTasks] at hcalls
  exact (horder.flatMap_right _).trans hcalls

/-- Such a run went to the endpoint with every call, and got a reply to each. -/
theorem answered_of_fetched (ht : Traced client base (fetchTasks plan) m order)
    (horder : order.Perm (List.range plan.workers.toNat))
    (h : List.Forall₂ (fun i r => ∃ replies, Fetched client plan base m.world i r replies)
      order rs) :
    ∀ c ∈ base.callsSince m.world,
      c.1.url = plan.endpoint ∧ ∃ reply, client c.2 = .reply reply := by
  intro c hc
  obtain ⟨i, hi, hc⟩ := List.mem_flatMap.mp ((callsSince_perm ht horder).mem_iff.mpr hc)
  obtain ⟨r, -, replies, hfetched⟩ := exists_of_forall₂ h hi
  exact hfetched.answered.of_mem hc

/-- The tally of such a run counts what its calls came to. -/
theorem tally_of_fetched (ht : Traced client base (fetchTasks plan) m order)
    (horder : order.Perm (List.range plan.workers.toNat))
    (h : List.Forall₂ (fun i r => ∃ replies, Fetched client plan base m.world i r replies)
      order rs) :
    (Tally.ofResults rs).succeeded =
        ((base.callsSince m.world).map (·.2)).countP (fun k => (client k).succeeds) ∧
      (Tally.ofResults rs).total = plan.workers.toNat * plan.attempts.toNat := by
  have hcalls := callsSince_perm ht horder
  constructor
  · rw [Tally.succeeded_ofResults, countP_outcomes_of_fetched h, hcalls.countP_eq, List.countP_map]
    rfl
  · rw [Tally.total_ofResults, length_outcomes_of_fetched h, hcalls.length_eq,
      length_callsSince ht horder h]

end Script

theorem callsSince_warned (tracking watch : Bool) (world w : World) :
    (warned tracking watch world).callsSince w = world.callsSince w := by
  simp [World.callsSince, calls_warned]

/-- Whatever course a run of a plan takes, it succeeds exactly when the client does not panic at one
of its next calls, as many as the plan has. -/
theorem fetch_succeeds_iff (processors : UInt32) (tracking : Bool) (client : Client) (watch : Bool)
    (course : Course) {plan : FetchPlan} (hplan : plan.validate = .ok ()) (world : World) :
    (∃ report,
        (fetch processors tracking client watch course plan world).outcome = .ok report) ↔
      ∀ k ∈ List.range' world.calls.size (plan.workers.toNat * plan.attempts.toNat),
        ∀ message, client k ≠ .panic message := by
  obtain ⟨m, order, early, late, hfinished, hend⟩ :=
    fetch_spec processors tracking client watch course hplan world
  have ht := hfinished.traced
  have hnumbers := World.numbers_callsSince (warned tracking watch world) m.world
  rw [calls_warned] at hnumbers
  rcases hend with ⟨i, message, hpanicked, hrun⟩ | ⟨horder, hfetched, report, -, -, hrun⟩
  · -- The panic that was collected is one of the answers of the script.
    obtain ⟨c, hc, hpanic⟩ := panic_of_taken (ht.panicked i message hpanicked)
    have hnumber : c.2 ∈ ((warned tracking watch world).callsSince m.world).map (·.2) :=
      List.mem_map_of_mem (List.mem_of_mem_filter hc)
    have hle := length_callsSince_le ht
    rw [hnumbers, List.mem_range'_1] at hnumber
    have hmem : c.2 ∈ List.range' world.calls.size
        (plan.workers.toNat * plan.attempts.toNat) := by
      rw [List.mem_range'_1]
      omega
    constructor
    · rintro ⟨report, h⟩
      rw [hrun] at h
      cases h
    · intro h
      exact absurd hpanic (h c.2 hmem message)
  · refine ⟨fun _ k hk message hmessage => ?_, fun _ => ⟨report, by rw [hrun]⟩⟩
    rw [length_callsSince ht horder hfetched] at hnumbers
    rw [← hnumbers] at hk
    obtain ⟨c, hc, rfl⟩ := List.mem_map.mp hk
    obtain ⟨-, reply, hreply⟩ := answered_of_fetched ht horder hfetched c hc
    rw [hreply] at hmessage
    cases hmessage

/-- Whatever course a run of a plan takes, it succeeds exactly when the client does not panic at one
of its next calls, as many as the plan has, and otherwise fails as a lost worker. When it succeeds,
it has made these calls and no others, all to the endpoint; each worker has answered once, with what
became of its own calls in their order; and the tally counts the script. -/
theorem fetch_of_script (processors : UInt32) (tracking : Bool) (client : Client) (watch : Bool)
    (course : Course) {plan : FetchPlan} (hplan : plan.validate = .ok ()) (world : World) :
    let run := fetch processors tracking client watch course plan world
    let total := plan.workers.toNat * plan.attempts.toNat
    let numbers := List.range' world.calls.size total
    ((∃ report, run.outcome = .ok report) ↔
        ∀ k ∈ numbers, ∀ message, client k ≠ .panic message) ∧
      (∀ a, run.outcome = .error a → ∃ f : Failure, a = .failure f ∧ f.cause = .worker) ∧
      ∀ report, run.outcome = .ok report →
        (world.callsSince run.world).map (·.2) = numbers ∧
        (∀ c ∈ world.callsSince run.world, c.1.url = plan.endpoint) ∧
        (report.results.map (·.id)).Perm (workerIds plan.workers) ∧
        (∀ r ∈ report.results, ∃ i < plan.workers.toNat, r.id = UInt32.ofNat (i + 1) ∧
          ∃ replies : List Reply, replies.length = plan.attempts.toNat ∧
            (world.callsBy run.world i).map (fun c => client c.2) =
              replies.map .reply ∧
            r.payload = .requests (fetchOutcomes replies) ∧
            r.outcomes.map (·.attempt) =
              (List.range plan.attempts.toNat).map (fun j => UInt32.ofNat (j + 1)) ∧
            (∀ j reply a status, replies[j]? = some reply →
              (r.outcomes[j]? = some (.success a status) ↔
                a = UInt32.ofNat (j + 1) ∧ status = 200 ∧ reply = .ok 200)) ∧
            ∀ j reply a text, replies[j]? = some reply →
              (r.outcomes[j]? = some (.failed a text) ↔
                a = UInt32.ofNat (j + 1) ∧ failureText? reply = some text)) ∧
        report.tally.succeeded = numbers.countP (fun k => (client k).succeeds) ∧
        report.tally.succeeded + report.tally.failed = total := by
  intro run total numbers
  refine ⟨fetch_succeeds_iff processors tracking client watch course hplan world, ?_⟩
  obtain ⟨m, order, early, late, hfinished, hend⟩ :=
    fetch_spec processors tracking client watch course hplan world
  have ht := hfinished.traced
  rcases hend with ⟨i, message, hpanicked, hrun⟩ | ⟨horder, hfetched, report, hsubmitted, hresults,
    hrun⟩
  · have hrun : run = .failed m.world (panicFailure i message) := hrun
    refine ⟨fun a ha => ?_, fun report h => ?_⟩
    · rw [hrun] at ha
      exact ⟨panicFailure i message, (Except.error.inj ha).symm, rfl⟩
    · rw [hrun] at h
      cases h
  · have hrun : run = ⟨m.world.tell .dispatcher (.tally report.tally), .ok report⟩ := hrun
    have hnumbers : ((warned tracking watch world).callsSince m.world).map (·.2) = numbers := by
      rw [World.numbers_callsSince, calls_warned, length_callsSince ht horder hfetched]
    have hsince : world.callsSince run.world =
        (warned tracking watch world).callsSince m.world := by
      rw [hrun, callsSince_warned]
      rfl
    refine ⟨fun a ha => ?_, fun report' h => ?_⟩
    · rw [hrun] at ha
      cases ha
    · rw [hrun] at h
      obtain rfl := Except.ok.inj h
      have hanswered := answered_of_fetched ht horder hfetched
      have hids := checkAccounting_ok_iff.mp (checkAccounting_of_fetched horder hfetched)
      obtain ⟨hsucceeded, htotal⟩ := tally_of_fetched ht horder hfetched
      rw [hnumbers] at hsucceeded
      refine ⟨hsince ▸ hnumbers, hsince ▸ fun c hc => (hanswered c hc).1, hresults ▸ hids,
        fun r hr => ?_, by rw [Report.tally, hresults]; exact hsucceeded,
        by rw [Report.tally, hresults]; exact htotal⟩
      rw [hresults] at hr
      obtain ⟨i, hi, replies, hf⟩ := exists_of_forall₂ hfetched.flip hr
      refine ⟨i, List.mem_range.mp (horder.mem_iff.mp hi), by rw [hf.result], replies, hf.length,
        ?_, by rw [hf.result], ?_, fun j reply a status hj => ?_, fun j reply a text hj => ?_⟩
      · have hanswers := congrArg (List.map Prod.snd) hf.answered
        rw [List.map_map, List.map_map] at hanswers
        rw [World.callsBy, hsince]
        exact hanswers
      · rw [hf.result, ← hf.length]
        exact attempts_fetchOutcomes replies
      · rw [hf.result]
        exact getElem?_fetchOutcomes_eq_success_iff hj
      · rw [hf.result]
        exact getElem?_fetchOutcomes_eq_failed_iff hj

/-- Four calls, of which the second is answered with another status, are three successes. -/
theorem fetch_of_fourAnswers :
    ∃ report, (fetch 1 true (fun k => .reply (.ok (if k = 1 then 500 else 200))) false
        {} { workers := 2, attempts := 2, endpoint := "http://[::1]" } {}).outcome = .ok report ∧
      report.tally.succeeded = 3 := by
  obtain ⟨hok, -, hreport⟩ := fetch_of_script 1 true
    (fun k => .reply (.ok (if k = 1 then 500 else 200))) false {} validate_loopback {}
  obtain ⟨report, hrun⟩ := hok.mpr fun k _ message h => by cases h
  obtain ⟨-, -, -, -, hsucceeded, -⟩ := hreport report hrun
  exact ⟨report, hrun, hsucceeded.trans (by decide)⟩

end BenchRig.Pool
