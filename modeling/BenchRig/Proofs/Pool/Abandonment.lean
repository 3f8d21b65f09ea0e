import BenchRig.Proofs.Pool.Admission
import BenchRig.Proofs.Pool.Journal
import BenchRig.Proofs.Pool.Replay
import BenchRig.Proofs.Pool.Schedule

/-!
# Leaving a pool

A run that leaves its pool after the submission reports the submission and nothing else: it succeeds
whatever the units do and however far they have come. Only the log tells how many units had not
ended, and that can be any number.
-/

namespace BenchRig.Pool

/-- The units that have not ended, counted place by place. -/
theorem Machine.pending_eq (m : Machine) :
    m.pending = (List.range m.jobs.size).countP fun i => !m.hasEnded i := by
  have hjobs : m.jobs.toList.map (fun j => !isOver j) =
      (List.range m.jobs.size).map fun i => !m.hasEnded i := by
    refine List.ext_getElem (by simp) fun i hi hi' => ?_
    have hlt : i < m.jobs.size := by simpa using hi
    simp [Machine.hasEnded, Array.getElem?_eq_getElem hlt]
  have hcount := congrArg (List.countP id) hjobs
  rw [List.countP_map, List.countP_map] at hcount
  have hpending : m.pending = m.jobs.toList.countP fun j => !isOver j := by
    rw [Machine.pending, ← Array.countP_eq_size_filter, ← Array.countP_toList]
  rw [hpending]
  exact hcount

/-! ## Pools that are left -/

section Open

variable {config : Config}

/-- Nothing has been collected of a pool that has just been opened. -/
theorem panicked_opened (client : Client) (lane : Lane) (tasks : List Task) (course : Course)
    (world : World) : (opened client config lane tasks false course world).panicked = none :=
  opening_invariant client lane (P := fun _ m => m.panicked = none) (fun _ h => h)
    (fun hstir h => hstir.panicked.trans h) course tasks rfl

/-- Leaving a pool that can be built succeeds, and the log hears of the phases. Units may have told
it of themselves between the first two of them. -/
theorem submitTasks_spec (hbuild : config.Buildable) (tasks : List Task) (course : Course)
    (world : World) :
    let run := submitTasks config tasks course world
    let m := opened noClient config .thread tasks false course world
    run.outcome = .ok ⟨tasks.length, course.timings.submit⟩ ∧
      Traced noClient world tasks m [] ∧
      ∃ early, (∀ t ∈ early, t.1 ≠ .dispatcher ∧ t ∈ world.toldSince m.world) ∧
        world.toldSince run.world =
          (.dispatcher, .poolCreated config.kind config.capacity.toNat) ::
            (early ++ [(.dispatcher, .submitted tasks.length course.timings.submit),
              (.dispatcher, .abandoned m.pending)]) := by
  intro run m
  have hopen : openPool noClient config .thread tasks course world .started = .ok m :=
    openPool_eq noClient hbuild .thread tasks false course world
  obtain ⟨m', early, hopen', htraced, -, htold, hearly⟩ :=
    openPool_spec noClient hbuild .thread tasks course world world.heap
  obtain rfl : m = m' := Except.ok.inj (hopen.symm.trans hopen')
  have hrun : run = ⟨(m.tell (.abandoned m.pending)).world,
      .ok ⟨m.jobs.size, course.timings.submit⟩⟩ := by
    simp only [run, submitTasks, hopen, htraced.size, ne_eq, not_true_eq_false, if_false]
  refine ⟨by rw [hrun, htraced.size], htraced, early, fun t ht => ⟨hearly t ht, ?_⟩, ?_⟩
  · rw [htold]
    exact List.mem_cons_of_mem _ (List.mem_append_left _ ht)
  · rw [hrun, Machine.tell, World.toldSince_tell htraced.ext, htold]
    simp

end Open

/-! ## Units that say nothing -/

/-- A task that tells the log nothing. -/
inductive Task.Silent : Task → Prop where
  | done (r : WorkerResult) : Silent (.done r)
  | panic (message : String) : Silent (.panic message)
  | call {url : String} {next : Reply → Task} (h : ∀ r, Silent (next r)) : Silent (.call url next)

/-- What a unit still has to do is silent. -/
def Phase.Silent : Phase → Prop
  | waiting t | active t => t.Silent
  | calling _ next => ∀ r, (next r).Silent
  | ended _ | collected => True

/-- A silent unit has told the log nothing, however far it has come. -/
theorem Lived.silent {client : Client} {i : Nat} {t : Task} {calls : List (Call × Nat)}
    {told : List (Teller × Log.DispatchEvent)} {p : Phase} (ht : t.Silent)
    (h : Lived client i t calls told p) : told = [] ∧ p.Silent := by
  induction h with
  | waiting => exact ⟨rfl, ht⟩
  | launch h ih => exact ih
  | done h ih => exact ⟨ih.1, trivial⟩
  | panic h ih => exact ⟨ih.1, trivial⟩
  | call k h ih =>
    obtain ⟨hnone, hsilent⟩ := ih
    cases hsilent with
    | call hnext => exact ⟨hnone, hnext⟩
  | tell h ih => cases ih.2
  | reply h hr ih => exact ⟨ih.1, ih.2 _⟩
  | lost h hm ih => exact ⟨ih.1, trivial⟩

/-- Where all units are silent, nothing in the log is theirs. -/
theorem Traced.dispatcher_of_silent {client : Client} {base : World} {tasks : List Task}
    {m : Machine} {order : List Nat} (ht : Traced client base tasks m order)
    (hsilent : ∀ t ∈ tasks, t.Silent) : ∀ t ∈ base.toldSince m.world, t.1 = .dispatcher := by
  rintro ⟨teller, e⟩ hmem
  cases teller with
  | dispatcher => rfl
  | worker i =>
    have hi := ht.tellers _ hmem i rfl
    obtain ⟨p, t, htask, hlived⟩ := ht.lived hi
    have hnone := (hlived.silent (hsilent t (List.mem_of_getElem? htask))).1
    have hown : (.worker i, e) ∈ base.toldBy m.world i := List.mem_filter.mpr ⟨hmem, by simp⟩
    rw [hnone] at hown
    cases hown

/-! ## A course for every progress -/

section Progress

variable (client : Client)

/-- The course in which nothing happens until `n` units have been submitted, and then the moves. -/
def Course.afterwards (timings : Timings) (n : Nat) (moves : List Move) : Course where
  timings := timings
  early := fun k => if k = n then moves.map .move else []

/-- If no unit acts before the last submission, whatever they do comes after all submissions. -/
theorem submitAll_last (early : Nat → List Event) (lane : Lane) {tasks : List Task} (m : Machine)
    (htasks : tasks ≠ []) (hearly : ∀ k, k ≠ m.jobs.size + tasks.length → early k = []) :
    m.submitAll client early lane tasks =
      (early (m.jobs.size + tasks.length)).foldl (Machine.stir client)
        (m.submitAll client (fun _ => []) lane tasks) := by
  induction tasks generalizing m with
  | nil => exact absurd rfl htasks
  | cons t tasks ih =>
    have hsize : (m.submit lane t).jobs.size = m.jobs.size + 1 := by simp [Machine.submit]
    cases tasks with
    | nil => simp only [Machine.submitAll, List.foldl_cons, List.foldl_nil, hsize,
        List.length_singleton]
    | cons t' rest =>
      have hnone : early (m.submit lane t).jobs.size = [] :=
        hearly _ (by simp only [hsize, List.length_cons]; omega)
      have hcount : m.jobs.size + (t :: t' :: rest).length =
          (m.submit lane t).jobs.size + (t' :: rest).length := by
        simp only [hsize, List.length_cons]
        omega
      rw [hcount] at hearly ⊢
      have hstep : m.submitAll client early lane (t :: t' :: rest) =
          (m.submit lane t).submitAll client early lane (t' :: rest) := by
        simp only [Machine.submitAll, List.foldl_cons, hnone, List.foldl_nil]
      rw [hstep]
      exact ih (m.submit lane t) (List.cons_ne_nil _ _) hearly

/-- Units that are run one after another have ended, and the others have not changed. -/
theorem foldl_runJob_jobs {limit : Lane → Nat} (hlimit : ∀ ℓ, 0 < limit ℓ) {m : Machine}
    (hb : m.Balanced limit) (hidle : m.Idle) (places : List Nat) :
    (∀ j ∉ places, (places.foldl (Machine.runJob client) m).jobs[j]? = m.jobs[j]?) ∧
      ∀ i ∈ places, ∀ job, (places.foldl (Machine.runJob client) m).jobs[i]? = some job →
        Machine.isOver job := by
  induction places generalizing m with
  | nil => exact ⟨fun _ _ => rfl, fun i hi => absurd hi List.not_mem_nil⟩
  | cons i places ih =>
    have hfree := hb.free_pos hlimit hidle
    obtain ⟨hothers, hself⟩ := Machine.runJob_jobs client hidle hfree i
    obtain ⟨hkept, hended⟩ := ih ((plays_runJob client m i).balanced hb)
      (Machine.idle_runJob client hidle hfree i)
    rw [List.foldl_cons]
    refine ⟨fun j hj => ?_, fun j hj job hjob => ?_⟩
    · rw [List.mem_cons, not_or] at hj
      rw [hkept j hj.2, hothers j hj.1]
    · by_cases hmem : j ∈ places
      · exact hended j hmem job hjob
      · obtain rfl := (List.mem_cons.mp hj).resolve_right hmem
        exact hself job (hkept j hmem ▸ hjob)

section Submitted

variable (config : Config) (lane : Lane) (tasks : List Task) (world : World)

/-- The machine of a run whose tasks have just been submitted, if no unit has acted. -/
def untouched : Machine :=
  (created config false world).submitAll client (fun _ => []) lane tasks

theorem jobs_untouched :
    (untouched client config lane tasks world).jobs =
      (tasks.map fun t => (⟨lane, .waiting t⟩ : Job)).toArray :=
  (submitAll_jobs client lane tasks _).trans Array.empty_append

theorem idle_untouched : (untouched client config lane tasks world).Idle := by
  intro i job hjob
  rw [jobs_untouched, List.getElem?_toArray, List.getElem?_map] at hjob
  obtain ⟨t, -, rfl⟩ := Option.map_eq_some_iff.mp hjob
  rfl

theorem balanced_untouched :
    (untouched client config lane tasks world).Balanced (Machine.start config world).free :=
  submitAll_invariant client lane (P := fun _ m => m.Balanced (Machine.start config world).free)
    (fun t h => h.submit lane t) (fun hstir h => h.stirred hstir) (fun _ => []) tasks
    ((balanced_start config world).tell _)

variable {tasks}

theorem jobs_afterwards (timings : Timings) (htasks : tasks ≠ []) (moves : List Move) :
    (opened client config lane tasks false (.afterwards timings tasks.length moves) world).jobs =
      (moves.foldl (Machine.play client) (untouched client config lane tasks world)).jobs := by
  have hsize : (created config false world).jobs.size + tasks.length = tasks.length :=
    Nat.zero_add _
  have hlast := submitAll_last client
    (fun k => if k = tasks.length then moves.map Event.move else []) lane
    (created config false world) htasks fun k hk => if_neg (hsize ▸ hk)
  have hnone : (Course.afterwards timings tasks.length moves).early 0 = [] :=
    if_neg (List.length_pos_iff.mpr htasks).ne
  rw [hsize, if_pos rfl, List.foldl_map] at hlast
  rw [untouched, opened, hnone]
  have hjobs := congrArg Machine.jobs hlast
  exact hjobs

end Submitted

/-- For every choice of units there is a course in which exactly these have ended when the
submission is over. -/
theorem exists_progress {config : Config} (hbuild : config.Buildable) (lane : Lane)
    (tasks : List Task) (world : World) (timings : Timings) (ended : Nat → Bool) :
    ∃ course : Course, course.timings = timings ∧ ∀ i < tasks.length,
      (opened client config lane tasks false course world).hasEnded i = ended i := by
  set rest := untouched client config lane tasks world with hrest
  set places := (List.range tasks.length).filter ended with hplaces
  -- The chosen units run one after another, each with all permits, once all have been submitted.
  set moves := Machine.movesInTurn client (Machine.runJobMoves client) rest places with hmoves
  refine ⟨.afterwards timings tasks.length moves, rfl, fun i hi => ?_⟩
  have hopened := jobs_afterwards client config lane world timings
    (List.ne_nil_of_length_pos (Nat.zero_lt_of_lt hi)) moves
  rw [← hrest, hmoves, foldl_movesInTurn client (foldl_runJobMoves client)] at hopened
  obtain ⟨hkept, hended⟩ := foldl_runJob_jobs client
    (fun ℓ => free_start_pos hbuild world ℓ)
    (balanced_untouched client config lane tasks world)
    (idle_untouched client config lane tasks world) places
  have hjobs : rest.jobs = _ := jobs_untouched client config lane tasks world
  rw [Machine.hasEnded, hopened]
  cases hchoice : ended i with
  | false =>
    have hout : i ∉ places := fun hmem => by simp [hplaces, hchoice] at hmem
    rw [hkept i hout, hjobs]
    simp [hi, Machine.isOver]
  | true =>
    have hin : i ∈ places := List.mem_filter.mpr ⟨List.mem_range.mpr hi, hchoice⟩
    have hlt : i < (places.foldl (Machine.runJob client) rest).jobs.size := by
      rw [(Plays.foldl (plays_runJob client) rest places).size, hjobs]
      simpa using hi
    rw [Array.getElem?_eq_getElem hlt]
    exact hended i hin _ (Array.getElem?_eq_getElem hlt)

end Progress

/-! ## Runs that leave their pool -/

/-- What is written of a dispatcher that leaves its pool. -/
def leaving (config : Config) (submitted : Nat) (ms : Float) (pending : Nat) : List Note :=
  [.created config.kind config.capacity.toNat, .submitted submitted ms, .abandoned pending]

/-- What is left of a run that leaves its pool in the state `m`: it reports the submission, and its
units are somewhere in their lives. It is written how many of them have not ended, and of silent
units nothing else is. -/
structure Abandoned (config : Config) (tasks : List Task) (ms : Float) (world : World) (m : Machine)
    (run : Run SubmitReport) : Prop where
  outcome : run.outcome = .ok ⟨tasks.length, ms⟩
  lives : ∀ i < tasks.length, ∃ lane p, m.jobs[i]? = some ⟨lane, p⟩ ∧
    m.LivedAt noClient world tasks i p ∧ (m.hasEnded i ↔ ∃ e, p = .ended e)
  pending : m.pending = (List.range tasks.length).countP fun i => !m.hasEnded i
  bound : m.pending ≤ tasks.length
  written : ∃ notes, Written (world.toldSince run.world) notes ∧
    notes.filter (fun n => n.teller = .dispatcher) = leaving config tasks.length ms m.pending
  silent : (∀ t ∈ tasks, t.Silent) →
    Written (world.toldSince run.world) (leaving config tasks.length ms m.pending)

theorem abandoned_of_submitTasks {config : Config} (hbuild : config.Buildable)
    (tasks : List Task) (course : Course) (world : World) :
    Abandoned config tasks course.timings.submit world
      (opened noClient config .thread tasks false course world)
      (submitTasks config tasks course world) := by
  obtain ⟨houtcome, htraced, early, hearly, htold⟩ := submitTasks_spec hbuild tasks course world
  have hcalm : (opened noClient config .thread tasks false course world).panicked = none :=
    panicked_opened noClient .thread tasks course world
  generalize opened noClient config .thread tasks false course world = m at *
  have hpending : m.pending = (List.range tasks.length).countP fun i => !m.hasEnded i := by
    rw [m.pending_eq, htraced.size]
  have hnotes : (world.toldSince (submitTasks config tasks course world).world).map Note.ofTold =
      .created config.kind config.capacity.toNat :: (early.map Note.ofTold ++
        [.submitted tasks.length course.timings.submit, .abandoned m.pending]) := by
    rw [htold]
    simp only [List.map_append, List.map_cons, List.map_nil, Note.ofTold_created,
      Note.ofTold_submitted, Note.ofTold_abandoned]
  have hwritten := written_ofTold (world.toldSince (submitTasks config tasks course world).world)
  rw [hnotes] at hwritten
  refine
    { outcome := houtcome
      lives := fun i hi => ?_
      pending := hpending
      bound := ?_
      written := ⟨_, hwritten, ?_⟩
      silent := fun hsilent => ?_ }
  · obtain ⟨lane, p, hjob⟩ := htraced.exists_job hi
    have hkept : p ≠ .collected := by
      rintro rfl
      cases htraced.mem_of_collected hcalm hjob
    refine ⟨lane, p, hjob, htraced.alive i lane p hjob hkept, ?_⟩
    rw [Machine.hasEnded, hjob, Option.any_some]
    cases p <;> simp_all [Machine.isOver]
  · rw [hpending]
    exact List.countP_le_length.trans_eq List.length_range
  · have hothers : (early.map Note.ofTold).filter (fun n => n.teller = .dispatcher) = [] :=
      List.filter_eq_nil_iff.mpr fun n hn => by
        obtain ⟨t, ht, rfl⟩ := List.mem_map.mp hn
        simp [(hearly t ht).1]
    rw [List.filter_cons_of_pos (by rfl), List.filter_append, hothers]
    rfl
  · have hnone : early = [] := List.eq_nil_iff_forall_not_mem.mpr fun t ht =>
      (hearly t ht).1 (htraced.dispatcher_of_silent hsilent t (hearly t ht).2)
    rwa [hnone] at hwritten

/-- Leaving a pool with more room than a semaphore has permits ends in a panic before anything is
submitted or told. -/
theorem submitTasks_of_crowded {config : Config} (hvalid : config.validate = .ok ())
    (hroom : 2 ^ 61 ≤ config.capacity.toNat) (tasks : List Task) (course : Course)
    (world : World) :
    submitTasks config tasks course world = ⟨world, .error (.panic
      "a semaphore may not have more than MAX_PERMITS permits (2305843009213693951)")⟩ := by
  simp only [submitTasks, openPool, Config.build_of_crowded hvalid hroom]
  rfl

/-- A run that submits a unit for each worker to a pool of a valid shape, and leaves it, succeeds
with as many units as there are workers, if its capacity is one that a semaphore has permits for.
What the units do and how far they have come makes no difference to that: two runs with other units
and another course have the same outcome. Only the log tells how many units had not ended; for every
choice of units there is a course in which these have ended and the others have not. With a greater
capacity the run ends in a panic, and nothing is submitted or told. -/
theorem abandonment_of_units {config : Config} (hvalid : config.validate = .ok ())
    (workers : UInt32) (unit : UInt32 → Task) (course : Course) (world : World) :
    let tasks := (workerIds workers).map unit
    let run := submitTasks config tasks course world
    tasks.length = workers.toNat ∧
      (config.capacity.toNat < 2 ^ 61 →
        Abandoned config tasks course.timings.submit world
          (opened noClient config .thread tasks false course world) run ∧
        (∀ (unit' : UInt32 → Task) (course' : Course) (world' : World),
          course'.timings.submit = course.timings.submit →
            (submitTasks config ((workerIds workers).map unit') course' world').outcome =
              run.outcome) ∧
        ∀ ended : Nat → Bool, ∃ course' : Course, course'.timings = course.timings ∧
          ∀ i < workers.toNat,
            (opened noClient config .thread tasks false course' world).hasEnded i = ended i) ∧
      (2 ^ 61 ≤ config.capacity.toNat →
        run = ⟨world, .error (.panic
          "a semaphore may not have more than MAX_PERMITS permits (2305843009213693951)")⟩) := by
  intro tasks run
  have hlength : ∀ unit' : UInt32 → Task,
      ((workerIds workers).map unit').length = workers.toNat := fun unit' => by
    rw [List.length_map, length_workerIds]
  refine ⟨hlength unit, fun hroom => ?_, fun hroom =>
    submitTasks_of_crowded hvalid hroom tasks course world⟩
  have hbuild := Config.buildable_of_validate hvalid hroom
  have habandoned := abandoned_of_submitTasks hbuild tasks course world
  refine ⟨habandoned, fun unit' course' world' hsubmit => ?_, fun ended => ?_⟩
  · have hother := abandoned_of_submitTasks hbuild ((workerIds workers).map unit') course' world'
    rw [hother.outcome, habandoned.outcome, hlength, hlength, hsubmit]
  · rw [← hlength unit]
    exact exists_progress noClient hbuild .thread tasks world course.timings ended

/-- Two workers, of which the first panics before the second is submitted: the run succeeds, and it
is written that one unit had not ended. -/
theorem abandonment_of_panic :
    let course : Course :=
      { early := fun k => if k = 1 then [.move (.launch 0), .move (.advance 0)] else [] }
    let tasks := (workerIds 2).map fun _ => Task.panic "boom"
    let run := submitTasks (.cpu 1) tasks course {}
    (Config.cpu 1).validate = .ok () ∧ run.outcome = .ok ⟨2, 0⟩ ∧
      Written (({} : World).toldSince run.world) (leaving (.cpu 1) 2 0 1) := by
  intro course tasks run
  have hvalid : (Config.cpu 1).validate = .ok () := rfl
  obtain ⟨-, hleft, -⟩ := abandonment_of_units hvalid 2 (fun _ => .panic "boom") course {}
  obtain ⟨habandoned, -⟩ := hleft (by decide)
  have hpending : (opened noClient (.cpu 1) .thread tasks false course {}).pending = 1 := by
    decide +kernel
  have hwritten := habandoned.silent fun t ht => by
    obtain ⟨id, -, rfl⟩ := List.mem_map.mp ht
    exact .panic "boom"
  rw [hpending] at hwritten
  exact ⟨hvalid, habandoned.outcome, hwritten⟩

/-- A valid shape for which submitting a unit and leaving it does not succeed: its capacity is one
more than the permits that a semaphore has. -/
theorem abandonment_of_crowd :
    Config.validate ⟨.cpu, 2305843009213693952, 1⟩ = .ok () ∧
      (submitTasks ⟨.cpu, 2305843009213693952, 1⟩ [.done ⟨1, .sum 10⟩] {} {}).outcome =
        .error (.panic
          "a semaphore may not have more than MAX_PERMITS permits (2305843009213693951)") := by
  have hvalid : Config.validate ⟨.cpu, 2305843009213693952, 1⟩ = .ok () := rfl
  refine ⟨hvalid, ?_⟩
  rw [submitTasks_of_crowded hvalid (by decide)]

end BenchRig.Pool
