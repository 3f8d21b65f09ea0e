import BenchRig.Micro.Workload
import BenchRig.Plan
import BenchRig.Pool.Course
import BenchRig.Result.Accounting

/-!
# Dispatching

A dispatcher builds a pool, submits one unit per worker, waits for all of them and accounts for
their results, or leaves the pool right after submission. It tells the log about each phase.
-/

namespace BenchRig.Pool

open Memory (Sampler)

/-- What a run that waited for its workers has to report. -/
structure Report where
  /-- The number of units that were submitted. -/
  submitted : Nat
  /-- How long the phases took. -/
  timings : Timings
  /-- The results in the order in which they were collected. -/
  results : List WorkerResult
  /-- The greatest number of live bytes, if it was watched. -/
  peak : Option UInt64

namespace Report

/-- The number of results. -/
def completed (r : Report) : Nat := r.results.length

/-- The wait for each submitted unit, on average. -/
def averageWait (r : Report) : Float :=
  if r.submitted = 0 then 0 else r.timings.wait / Float.ofNat r.submitted

/-- The tally of all requests. -/
def tally (r : Report) : Tally := .ofResults r.results

end Report

/-- What a run that left its pool after submission has to report. -/
structure SubmitReport where
  /-- The number of units that were submitted. -/
  submitted : Nat
  /-- How long the submission took, in milliseconds. -/
  elapsed : Float

/-- The ids of a number of workers. -/
def workerIds (workers : UInt32) : List UInt32 :=
  (List.range workers.toNat).map fun i => UInt32.ofNat (i + 1)

/-- What a run leaves behind: what the units shared, and its outcome. -/
structure Run (α : Type) where
  /-- What the units shared. -/
  world : World
  /-- What the run has to report, or why it has nothing to report. -/
  outcome : Except Abort α

namespace Run

/-- A run that failed. -/
def failed {α : Type} (world : World) (f : Failure) : Run α := ⟨world, .error (.failure f)⟩

/-- Adds a check of the outcome. -/
def check {α : Type} (r : Run α) (verify : α → Except AccountingFault Unit) : Run α :=
  { r with
    outcome := r.outcome.bind fun a =>
      match verify a with
      | .ok () => .ok a
      | .error f => .error (.failure f.failure) }

end Run

/-- A machine together with a sampler, if memory is watched. -/
abbrev Watched := Machine × Option Sampler

/-- Tells the log. -/
def Machine.tell (m : Machine) (e : Log.DispatchEvent) : Machine :=
  { m with world := m.world.tell .dispatcher e }

/-- Collects the unit at place `i`, if that is possible; each result is told to the log and
sampled. -/
def collectOne (submitted : Nat) (w : Watched) (i : Nat) : Watched :=
  match w.1.collect? i with
  | some (m, .ok r) =>
    (m.tell (.workerCompleted r.id m.results.size submitted),
      w.2.map fun s => s.observe m.world.heap.counters)
  | some (m, .error _) => (m, w.2)
  | none => w

/-- Lets something happen after the submission, if it is possible. -/
def happen (client : Client) (submitted : Nat) (w : Watched) : Event → Watched
  | .submit _ _ => w
  | .move v => (w.1.play client v, w.2)
  | .memory a => (w.1.use a, w.2)
  | .collect i => collectOne submitted w i

/-- Waits for all units: first what the course tells happens, then the rest. -/
def await (client : Client) (course : Course) (submitted : Nat) (w : Watched) : Watched :=
  let (m, sampler) := course.late.foldl (happen client submitted) w
  (List.range submitted).foldl (collectOne submitted) (m.runAll client, sampler)

/-- The outcome of a pool that has been collected. -/
def conclude (timings : Timings) (w : Watched) : Run Report :=
  let (m, sampler) := w
  match m.panicked with
  | some (i, message) => .failed m.world (panicFailure i message)
  | none =>
    let report : Report := {
      submitted := m.jobs.size
      timings := timings
      results := m.results.toList
      peak := sampler.map fun s => (s.observe m.world.heap.counters).maxPeak }
    Run.check ⟨m.world, .ok report⟩ fun r => checkAccounting r.submitted r.results

/-- Builds a pool and submits tasks to it. -/
def openPool (client : Client) (config : Config) (lane : Lane) (tasks : List Task)
    (course : Course) (world : World) (launch : Launch) : Except Abort Machine := do
  config.build launch
  let m := (Machine.start config world).tell (.poolCreated config.kind config.capacity.toNat)
  let m := (course.early 0).foldl (Machine.stir client) m
  let m := m.submitAll client course.early lane tasks
  return m.tell (.submitted m.jobs.size course.timings.submit)

/-- What a run starts from, and the sampler, if memory is watched. -/
def startWatch (watch : Bool) (world : World) : World × Option Sampler :=
  if watch then
    let (counters, sampler) := Sampler.start world.heap.counters
    ({ world with heap := { world.heap with counters } }, some sampler)
  else (world, none)

/-- Runs tasks in a pool and waits for all of them. -/
def runTasks (client : Client) (config : Config) (lane : Lane) (tasks : List Task)
    (watch : Bool) (course : Course) (world : World) (launch : Launch := .started) : Run Report :=
  let (world, sampler) := startWatch watch world
  match openPool client config lane tasks course world launch with
  | .error a => ⟨world, .error a⟩
  | .ok m => conclude course.timings (await client course tasks.length (m, sampler))

/-- Submits tasks, one for each worker, to a pool and leaves it; the log is told how many units had
not ended. -/
def submitTasks (config : Config) (tasks : List Task) (course : Course) (world : World)
    (launch : Launch := .started) : Run SubmitReport :=
  match openPool noClient config .thread tasks course world launch with
  | .error a => ⟨world, .error a⟩
  | .ok m =>
    let submitted := m.jobs.size
    if submitted ≠ tasks.length then
      .failed m.world (AccountingFault.unsubmitted submitted tasks.length).failure
    else ⟨(m.tell (.abandoned m.pending)).world, .ok ⟨submitted, course.timings.submit⟩⟩

/-- The units of a plan for counting workers. All of them compute the same sum. -/
def countingTasks (plan : SpawnPlan) : List Task :=
  let sum := Micro.countModTen plan.iterations
  (workerIds plan.workers).map fun id => .done ⟨id, .sum sum⟩

/-- Runs a plan for counting workers: every one must answer with the sum in closed form. -/
def spawn (processors : UInt32) (course : Course) (plan : SpawnPlan) (world : World)
    (launch : Launch := .started) : Run Report :=
  match plan.validate with
  | .error f => .failed world f
  | .ok () =>
    let run :=
      runTasks noClient (.cpu processors) .thread (countingTasks plan) false course world launch
    run.check fun r => checkSums (Micro.countModTenClosed plan.iterations) r.results

/-- Submits the workers of a plan for counting workers, and leaves them. -/
def spawnSubmitOnly (processors : UInt32) (course : Course) (plan : SpawnPlan) (world : World)
    (launch : Launch := .started) : Run SubmitReport :=
  match plan.validate with
  | .error f => .failed world f
  | .ok () => submitTasks (.cpu processors) (countingTasks plan) course world launch

/-- The units of a plan for fetching workers. -/
def fetchTasks (plan : FetchPlan) : List Task :=
  (workerIds plan.workers).map (fetchTask plan.endpoint plan.attempts)

/-- A single fetching worker, run to its end. -/
def fetchAlone (client : Client) (url : String) (attempts id : UInt32) : Machine :=
  let m := (Machine.start ⟨.io, 1, 1⟩ {}).submit .permit (fetchTask url attempts id)
  (m.runAll client).gather

/-- What a plan for fetching workers is run from: blocks are counted or not, and the log is told
where memory is to be watched and nothing counts it. -/
def warned (tracking watch : Bool) (world : World) : World :=
  let world := world.track tracking
  if watch ∧ ¬ tracking then world.tell .dispatcher .memoryUntracked else world

/-- Runs a plan for fetching workers. Failed requests are results like any other; `tracking` tells
whether anything counts what is allocated. -/
def fetch (processors : UInt32) (tracking : Bool) (client : Client) (watch : Bool)
    (course : Course) (plan : FetchPlan) (world : World) (launch : Launch := .started) :
    Run Report :=
  match plan.validate with
  | .error f => .failed world f
  | .ok () =>
    let run :=
      (runTasks client (.io processors plan.workers) .permit (fetchTasks plan) watch course
        (warned tracking watch world) launch).check fun r => checkAttempts plan.attempts r.results
    match run.outcome with
    | .ok r => { run with world := run.world.tell .dispatcher (.tally r.tally) }
    | .error _ => run

end BenchRig.Pool
