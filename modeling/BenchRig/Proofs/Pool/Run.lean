import BenchRig.Proofs.Pool.Building
import BenchRig.Proofs.Pool.Chronicle

/-!
# Whole runs

A run opens its pool, submits its tasks and waits for them. Whatever course it takes, it ends in one
of two ways: a panic was collected, or every unit was, each with its result.
-/

namespace BenchRig.Pool

open Memory (Sampler)

/-- What is known of the machine of a run that is over: the lives of its units, what the log was
told before the submission was over and since, and that all units were collected unless one
panicked. -/
structure Finished (client : Client) (config : Config) (tasks : List Task) (submit : Float)
    (world : World) (m : Machine) (order : List Nat)
    (early late : List (Teller × Log.DispatchEvent)) : Prop where
  traced : Traced client world tasks m order
  told : world.toldSince m.world =
    (.dispatcher, .poolCreated config.kind config.capacity.toNat) ::
      (early ++ (.dispatcher, .submitted tasks.length submit) :: late)
  early : ∀ t ∈ early, t.1 ≠ .dispatcher
  completions : late.filter (fun t => t.1 = .dispatcher) =
    m.results.toList.mapIdx (completion tasks.length)
  quiet : ∀ a b k r, late = a ++ completion tasks.length k r :: b →
    ∃ i, order[k]? = some i ∧ ∀ t ∈ b, t.1 ≠ .worker i
  all : m.panicked = none → order.Perm (List.range tasks.length)

/-- The places whose results a run collects, in that order. -/
def runOrder (client : Client) (config : Config) (lane : Lane) (tasks : List Task) (watch : Bool)
    (course : Course) (world : World) : List Nat :=
  let (world, sampler) := startWatch watch world
  match openPool client config lane tasks course world .started with
  | .error _ => []
  | .ok m => awaitOrder client course tasks.length (m, sampler)

/-- A checked run that succeeds has succeeded before, and has passed the check. -/
theorem Run.outcome_of_check {α : Type} {run : Run α} {verify : α → Except AccountingFault Unit}
    {a : α} (h : (run.check verify).outcome = .ok a) :
    run.outcome = .ok a ∧ verify a = .ok () := by
  obtain ⟨world, outcome⟩ := run
  cases outcome with
  | error f => cases h
  | ok b =>
    simp only [Run.check, Except.bind] at h
    cases hverify : verify b with
    | error f =>
      rw [hverify] at h
      cases h
    | ok u =>
      rw [hverify] at h
      obtain rfl := Except.ok.inj h
      exact ⟨rfl, hverify⟩

/-- A run that has succeeded and passes a check succeeds with it. -/
theorem Run.check_of_ok {α : Type} {run : Run α} {verify : α → Except AccountingFault Unit} {a : α}
    (hrun : run.outcome = .ok a) (hverify : verify a = .ok ()) :
    (run.check verify).outcome = .ok a := by
  simp only [Run.check, hrun, Except.bind, hverify]

section Run

variable {client : Client} {config : Config}

/-- A pool that can be built has a permit for each lane. -/
theorem free_start_pos (hbuild : config.Buildable) (world : World) (ℓ : Lane) :
    0 < (Machine.start config world).free ℓ := by
  cases ℓ with
  | thread =>
    simp only [Machine.start, Machine.free, Machine.threadLimit]
    split
    · exact hbuild.capacity
    · decide
  | permit => exact hbuild.capacity

/-- The first that the log hears of a pool is that it was created. -/
theorem toldSince_opened (world : World) (heap : Memory.Heap) (e : Log.DispatchEvent) :
    world.toldSince ((Machine.start config { world with heap }).tell e).world =
      [(.dispatcher, e)] := by
  have hnone : world.toldSince (Machine.start config { world with heap }).world = [] :=
    World.toldSince_self
  have hext : world.Extends (Machine.start config { world with heap }).world :=
    ⟨List.prefix_rfl, List.prefix_rfl⟩
  have htold := World.toldSince_tell hext .dispatcher e
  rwa [hnone] at htold

/-- Opening a pool submits all tasks: the log hears of the pool, then of units only, and then of the
submission. -/
theorem openPool_spec (client : Client) (hbuild : config.Buildable) (lane : Lane)
    (tasks : List Task) (course : Course) (world : World) (heap : Memory.Heap) :
    ∃ m early,
      openPool client config lane tasks course { world with heap } .started = .ok m ∧
      Traced client world tasks m [] ∧
      m.Balanced (Machine.start config { world with heap }).free ∧
      world.toldSince m.world =
        (.dispatcher, .poolCreated config.kind config.capacity.toNat) ::
          (early ++ [(.dispatcher, .submitted tasks.length course.timings.submit)]) ∧
      ∀ t ∈ early, t.1 ≠ .dispatcher := by
  set start := Machine.start config { world with heap } with hstart
  set opened := start.tell (.poolCreated config.kind config.capacity.toNat) with hopened
  have htraced : Traced client world [] opened [] :=
    (traced_start client config world heap).tell _
  have hsubmitted := opening_invariant client lane
    (P := fun ts m => Traced client world ts m [] ∧ m.Balanced start.free ∧
      opened.world.Extends m.world ∧ ∀ t ∈ opened.world.toldSince m.world, t.1 ≠ .dispatcher)
    (fun t h => ⟨h.1.submit lane t, h.2.1.submit lane t, h.2.2⟩)
    (fun hstir h => ⟨h.1.stirred hstir, h.2.1.stirred hstir, h.2.2.1.stirred hstir,
      hstir.told_worker h.2.2.1 h.2.2.2⟩)
    course tasks
    ⟨htraced, (balanced_start config _).tell _, .refl _, by simp [World.toldSince_self]⟩
  obtain ⟨htr, hb, hext, hworkers⟩ := hsubmitted
  set submitted := ((course.early 0).foldl (Machine.stir client) opened).submitAll client
    course.early lane tasks
  refine ⟨submitted.tell (.submitted tasks.length course.timings.submit),
    opened.world.toldSince submitted.world, ?_, htr.tell _, hb.tell _, ?_, hworkers⟩
  · rw [openPool, hbuild.build, ← htr.size]
    rfl
  · rw [Machine.tell, World.toldSince_tell htr.ext, World.toldSince_append htraced.ext hext,
      hopened, hstart, toldSince_opened]
    rfl

/-- Waiting for the units of a pool follows their lives; unless one of them has panicked, all of
them have been collected in the end. -/
theorem await_spec {m : Machine} {tasks : List Task} {base : World} {limit : Lane → Nat}
    (hlimit : ∀ ℓ, 0 < limit ℓ) (ht : Traced client base tasks m []) (hb : m.Balanced limit)
    (course : Course) (sampler : Option Sampler) {w : Watched} {order : List Nat}
    (hw : await client course tasks.length (m, sampler) = w)
    (horder : awaitOrder client course tasks.length (m, sampler) = order) :
    Followed client base m.world tasks tasks.length order w.1 ∧
      (w.1.panicked = none → order.Perm (List.range tasks.length)) := by
  have hempty : m.results = #[] := by
    have := ht.results.length_eq
    simpa [eq_comm] using this
  have hstart : Followed client base m.world tasks tasks.length [] m :=
    ⟨ht, logged_start hempty⟩
  have hf := Followed.await (w := (m, sampler)) hstart course
  rw [hw, horder, List.nil_append] at hf
  refine ⟨hf, fun hcalm => ?_⟩
  have hcollected := (await_collects client (w := (m, sampler)) hlimit hb ht.size
    course).resolve_left (by simp [hw, hcalm])
  rw [hw] at hcollected
  refine (List.perm_ext_iff_of_nodup hf.traced.nodup List.nodup_range).mpr fun i => ?_
  rw [List.mem_range]
  refine ⟨hf.traced.lt_of_mem, fun hi => ?_⟩
  obtain ⟨lane, p, hjob⟩ := hf.traced.exists_job hi
  obtain rfl := hcollected i _ hjob
  exact hf.traced.mem_of_collected hcalm hjob

/-- A run whose pool is not built has told the log nothing. -/
theorem runTasks_of_unbuilt (client : Client) {launch : Launch} {a : Abort}
    (hbuild : config.build launch = .error a) (lane : Lane) (tasks : List Task) (watch : Bool)
    (course : Course) (world : World) :
    runTasks client config lane tasks watch course world launch =
      ⟨(startWatch watch world).1, .error a⟩ := by
  simp only [runTasks, openPool, hbuild]
  rfl

/-- A run that succeeds has a pool that can be built, and its threads have started. -/
theorem buildable_of_runTasks {client : Client} {lane : Lane} {tasks : List Task} {watch : Bool}
    {course : Course} {world : World} {launch : Launch} {report : Report}
    (h : (runTasks client config lane tasks watch course world launch).outcome = .ok report) :
    config.Buildable ∧ launch = .started := by
  cases hbuild : config.build launch with
  | error a =>
    rw [runTasks_of_unbuilt client hbuild] at h
    cases h
  | ok u => exact Config.build_eq_ok_iff.mp hbuild

/-- Whatever course a run takes, it ends with the panic of one of its units, or with the results of
all of them, which are then accounted for. -/
theorem runTasks_spec (client : Client) (hbuild : config.Buildable) (lane : Lane)
    (tasks : List Task) (watch : Bool) (course : Course) (world : World) :
    ∃ m early late,
      Finished client config tasks course.timings.submit world m
        (runOrder client config lane tasks watch course world) early late ∧
      ((∃ i message, m.panicked = some (i, message) ∧
          runTasks client config lane tasks watch course world =
            .failed m.world (panicFailure i message)) ∨
        (m.panicked = none ∧ ∃ peak,
          runTasks client config lane tasks watch course world =
            Run.check ⟨m.world, .ok ⟨tasks.length, course.timings, m.results.toList, peak⟩⟩
              fun r => checkAccounting r.submitted r.results)) := by
  obtain ⟨heap, sampler, hwatch⟩ : ∃ heap sampler,
      startWatch watch world = ({ world with heap }, sampler) := by
    cases watch with
    | false => exact ⟨world.heap, none, rfl⟩
    | true => exact ⟨{ world.heap with counters := world.heap.counters.resetPeak }, _, rfl⟩
  obtain ⟨m, early, hopen, htr, hb, htold, hearly⟩ :=
    openPool_spec client hbuild lane tasks course world heap
  obtain ⟨⟨m', sampler'⟩, hw⟩ : ∃ w, await client course tasks.length (m, sampler) = w := ⟨_, rfl⟩
  have hrun : runTasks client config lane tasks watch course world =
      conclude course.timings (m', sampler') := by
    simp only [runTasks, hwatch, hopen, hw]
  have horder : awaitOrder client course tasks.length (m, sampler) =
      runOrder client config lane tasks watch course world := by
    simp only [runOrder, hwatch, hopen]
  obtain ⟨⟨hlast, hlogged⟩, hall⟩ :=
    await_spec (fun ℓ => free_start_pos hbuild _ ℓ) htr hb course sampler hw horder
  refine ⟨m', early, m.world.toldSince m'.world,
    ⟨hlast, ?_, hearly, hlogged.completions, hlogged.quiet, hall⟩, ?_⟩
  · rw [World.toldSince_append htr.ext hlogged.ext, htold]
    simp
  · rw [hrun]
    cases hpanicked : m'.panicked with
    | some p => exact .inl ⟨p.1, p.2, rfl, by simp [conclude, hpanicked]⟩
    | none =>
      refine .inr ⟨rfl, sampler'.map fun s => (s.observe m'.world.heap.counters).maxPeak, ?_⟩
      simp only [conclude, hpanicked]
      rw [hlast.size]

end Run

end BenchRig.Pool
