import BenchRig.Micro.Suite
import BenchRig.Pool.Dispatch
import BenchRig.Summary

/-!
# Running a benchmark

A benchmark opens its report, does its work, and closes its report with what came of it. If the work
fails, nothing but the opening has been written. Diagnostics are lines apart from the report.
-/

namespace BenchRig

open Log (DispatchEvent Logger Moment Timestamp)
open Pool (Client Run World)
open Report (Item Writer)

/-- The name of this package. -/
def packageName : String := "runtime-bench"

/-- The version of this package. -/
def version : String := "0.1.0"

/-- What a run finds around it: the machine, the build, the time, and how long everything takes. -/
structure Surroundings where
  /-- The number of processors. -/
  processors : UInt32 := 1
  /-- The number of processor cores. -/
  cores : Nat := 1
  /-- When and from what the program was built. -/
  build : String := "unknown time from unknown commit (unknown branch)"
  /-- The id of the session. -/
  session : String := "00000000-0000-4000-8000-000000000000"
  /-- The time at which entries are logged. -/
  now : Timestamp := .epoch
  /-- The course that a dispatch takes. -/
  course : Pool.Course := {}
  /-- How long each workload takes, in milliseconds. -/
  clock : Nat → Float := fun _ => 0
  /-- Whether anything counts what is allocated. -/
  tracking : Bool := true
  /-- What comes of starting the threads of a pool. -/
  launch : Pool.Launch := .started
  /-- Where a panic of the program itself is said to be. -/
  site : String := "unknown"

/-- The thread that units of a pool of tasks run on. -/
def workerThread : String := "rtbench-io"

/-- The lines that a logger writes for what it was told; `worker` is the thread of the workers. -/
def renderTold (l : Logger) (session : Option String) (now : Timestamp) (worker : String)
    (told : List (Pool.Teller × DispatchEvent)) : List String :=
  told.flatMap fun t =>
    let thread := match t.1 with | .dispatcher => "main" | .worker _ => worker
    l.log session ⟨now, some thread⟩ t.2.event

/-- The logger that dispatching uses. -/
def dispatchLogger (settings : Settings) : Logger := .ofSettings Log.dispatchName settings

/-! ## Reports -/

/-- What is left when a report has been written, as far as it was. -/
structure Shown (α : Type) where
  /-- The writer. -/
  writer : Writer
  /-- What the workers shared. -/
  world : World
  /-- What came of the work, or why it ended early. -/
  outcome : Except Abort α

/-- Writes the opening, does the work, and writes what came of it. -/
def perform {α : Type} (writer : Writer) (opening : List Item) (work : World → Run α)
    (closing : α → List Item) (world : World) : Shown α :=
  match writer.writeAll opening with
  | (writer, .error f) => ⟨writer, world, .error (.failure f)⟩
  | (writer, .ok ()) =>
    let run := work world
    match run.outcome with
    | .error abort => ⟨writer, run.world, .error abort⟩
    | .ok a =>
      match writer.writeAll (closing a) with
      | (writer, .error f) => ⟨writer, run.world, .error (.failure f)⟩
      | (writer, .ok ()) => ⟨writer, run.world, .ok a⟩

/-- A measurement of raw milliseconds as an item. -/
def timed (label : String) (ms : Float) : Item := .measurement (.ofMillis label ms)

/-- Where an endpoint leads; a text that is no URL is shown as it is. -/
def destination (endpoint : String) : String :=
  match Url.Address.ofText endpoint with
  | .ok a => a.destination
  | .error _ => endpoint

/-- What a report of fetching workers says before they start. -/
def fetchOpening (kind : Kind) (plan : FetchPlan) : List Item :=
  .header kind.title ::
    if kind = .fetch then
      [.note ("Each worker makes " ++ Decimal.text plan.attempts.toNat ++ " HTTP requests to "
        ++ destination plan.endpoint), .blank]
    else []

/-- What a report of fetching workers says when all have answered. -/
def fetchClosing (kind : Kind) (plan : FetchPlan) (r : Pool.Report) : List Item :=
  [timed ("Spawn " ++ Decimal.text plan.workers.toNat ++ " workers") r.timings.submit,
   timed "Wait for completion" r.timings.wait,
   timed "Total time" r.timings.total]
  ++ (if kind = .fetch then [.average "Average per worker" r.averageWait] else [])
  ++ (match r.peak with | some bytes => [.memory "Peak memory" bytes] | none => [])

/-- What a report of counting workers says when all have answered. -/
def spawnClosing (plan : SpawnPlan) (r : Pool.Report) : List Item :=
  [timed ("Spawn and complete " ++ Decimal.text plan.workers.toNat ++ " workers")
    r.timings.total,
   .note ("Completed " ++ Decimal.text r.completed ++ " workers")]

/-- What a report of counting workers says when all have been submitted. -/
def submitClosing (plan : SpawnPlan) (r : Pool.SubmitReport) : List Item :=
  [timed ("Submit " ++ Decimal.text plan.workers.toNat ++ " worker tasks") r.elapsed,
   .note ("Submitted " ++ Decimal.text r.submitted ++ " tasks")]

/-! ## Benchmarks -/

/-- Runs the micro suite. -/
def runMicro (around : Surroundings) (kind : Kind) (writer : Writer) :
    Shown (List Measurement) :=
  match writer.write (.header kind.title) with
  | (writer, .error f) => ⟨writer, {}, .error (.failure f)⟩
  | (writer, .ok ()) =>
    let run := Micro.runSuite around.clock writer Micro.suite
    ⟨run.writer, {}, run.outcome.mapError .failure⟩

/-- Runs counting workers and waits for them. -/
def runSpawn (around : Surroundings) (kind : Kind) (writer : Writer) (plan : SpawnPlan) :
    Shown Pool.Report :=
  perform writer [.header kind.title]
    (fun world => Pool.spawn around.processors around.course plan world around.launch)
    (spawnClosing plan) {}

/-- Runs counting workers and leaves them. -/
def runSpawnOnly (around : Surroundings) (kind : Kind) (writer : Writer) (plan : SpawnPlan) :
    Shown Pool.SubmitReport :=
  perform writer [.header kind.title]
    (fun world => Pool.spawnSubmitOnly around.processors around.course plan world around.launch)
    (submitClosing plan) {}

/-- Runs fetching workers; `watch` tells whether memory is watched. -/
def runFetch (around : Surroundings) (kind : Kind) (writer : Writer) (client : Client)
    (watch : Bool) (plan : FetchPlan) : Shown Pool.Report :=
  perform writer (fetchOpening kind plan)
    (fun world => Pool.fetch around.processors around.tracking client watch around.course plan world
      around.launch)
    (fetchClosing kind plan) {}

/-- What is left of a run without its results. -/
def Shown.discard {α : Type} (s : Shown α) : Shown Unit :=
  ⟨s.writer, s.world, s.outcome.map fun _ => ()⟩

/-- Runs a benchmark with the plan that belongs to it. -/
def Kind.run (around : Surroundings) (writer : Writer) (client : Client) (kind : Kind) :
    Shown Unit :=
  match kind with
  | .micro => (runMicro around kind writer).discard
  | .spawn => (runSpawn around kind writer {}).discard
  | .spawnOnly => (runSpawnOnly around kind writer {}).discard
  | .fetch => (runFetch around kind writer client false {}).discard
  | .fetchLite => (runFetch around kind writer client false .lite).discard
  | .fetchLiteMemory => (runFetch around kind writer client true .lite).discard

/-! ## Diagnostics -/

/-- The lines about program, build, machine and settings at the start of a debugged run. -/
def banner (around : Surroundings) (settings : Settings) (kind : Kind) : List String :=
  [packageName ++ " v" ++ version,
   "Built " ++ around.build,
   "CPUs: " ++ Decimal.text around.processors.toNat ++ " logical, " ++ Decimal.text around.cores
     ++ " physical",
   "Session: " ++ around.session]
  ++ summaryLines settings kind ++ [""]

/-- The place where a run tells that it starts and ends. -/
def runLocation : Log.Location := ⟨"BenchRig/App.lean", 1, some "BenchRig.App"⟩

/-- What the log says when a run starts. -/
def startEvent (kind : Kind) : Log.Event :=
  .build .info ("Running " ++ kind.program) [.location runLocation]

/-- What the log says when a run ends. -/
def endEvent (kind : Kind) (ok : Bool) : Log.Event :=
  .build .debug ("Finished " ++ kind.program ++ " (ok: " ++ truthText ok ++ ")")
    [.location runLocation]

/-- A run as the program shows it. -/
structure Ran where
  /-- The writer of the report. -/
  writer : Writer
  /-- The diagnostics. -/
  diagnostics : List String
  /-- Whether the run succeeded, or why not. -/
  outcome : Except Abort Unit

/-- The lines that dispatching has logged. -/
def dispatchLines (around : Surroundings) (settings : Settings) (world : World) : List String :=
  renderTold (dispatchLogger settings) (some around.session) around.now workerThread
    world.told.toList

/-- Runs a benchmark, with diagnostics as the settings ask for them. A panic leaves the run before it
can tell that it ends. -/
def runApp (around : Surroundings) (settings : Settings) (writer : Writer) (client : Client)
    (kind : Kind) : Ran :=
  let logger : Logger := .ofSettings "APP" settings
  let log := logger.log (some around.session) ⟨around.now, some "main"⟩
  let shown := kind.run around writer client
  { writer := shown.writer
    outcome := shown.outcome
    diagnostics :=
      (if settings.debug then banner around settings kind else [])
      ++ log (startEvent kind)
      ++ dispatchLines around settings shown.world
      ++ match shown.outcome with
        | .error (.panic _) => []
        | outcome => log (endEvent kind outcome.isOk) }

/-- The lines about a failure that ends the program: a log entry, if the settings ask for one, and
the failure itself. -/
def reportFailure (around : Surroundings) (settings : Settings) (terminal : Bool) (f : Failure)
    (context : String) : List String :=
  let logger : Logger := .ofSettings "ERR" settings
  let event : Log.Event :=
    .build .fatal (context ++ ": " ++ f.display)
      [.failure f, .field "context" (some (.string context))]
  (if settings.verbose ∨ settings.debug then
    logger.log (some around.session) ⟨around.now, some "main"⟩ event
  else [])
  ++ [f.formatForConsole settings.colour terminal]

end BenchRig
