import BenchRig.Log.Session
import BenchRig.Program
import BenchRig.Url.Request
import Std.Time.DateTime.Timestamp

/-!
# The program

Reads arguments and environment, runs the benchmark they ask for, and writes what comes of it. How
long the work takes is measured in a rehearsal, whose times the report then shows. There is no
network, so every request fails for want of a server.
-/

namespace BenchRig.Main

open Command (Invocation)
open Pool (Client)

/-- What the environment of this process says about colours. -/
def readEnvironment : IO Environment := do
  return {
    noColor := ← IO.getEnv "NO_COLOR"
    forceColor := ← IO.getEnv "FORCE_COLOR"
    term := ← IO.getEnv "TERM"
    terminal := ← (← IO.getStdout).isTty }

/-- The number of processors, as far as the system tells. -/
def readProcessors : IO UInt32 := do
  try
    let lines := (← IO.FS.readFile "/proc/cpuinfo").splitOn "\n"
    return .ofNat (max 1 (lines.filter (·.startsWith "processor")).length)
  catch _ => return 1

/-- Machine, time and session of this run. -/
def readSurroundings : IO Surroundings := do
  let processors ← readProcessors
  let now ← Std.Time.Timestamp.now
  let session := Log.sessionText (← IO.rand 0 340282366920938463463374607431768211455)
  return {
    processors, session
    cores := processors.toNat
    now := .ofNanos now.toNanosecondsSinceUnixEpoch.val.toNat }

/-- The client of a program without a network. -/
def client : Client := fun _ => .reply (.error (Url.unreachable ({} : FetchPlan).endpoint))

/-- How many milliseconds some work takes. -/
def measure {α : Type} (work : Unit → α) : IO Float := do
  let start ← IO.monoNanosNow
  let _ ← IO.lazyPure work
  let stop ← IO.monoNanosNow
  return Float.ofNat (stop - start) / 1000000

/-- The surroundings with the times of a rehearsal. -/
def rehearse (around : Surroundings) (kind : Kind) : IO Surroundings := do
  match kind.pool? with
  | none =>
    let times ← Micro.suite.mapM fun w => measure fun _ => w.value
    return { around with clock := fun n => times.getD n 0 }
  | some _ =>
    let total ← measure fun _ => (kind.run around {} client).outcome
    return { around with course := { timings := { wait := total, total } } }

/-- Why a write has failed. -/
def faultOf : IO.Error → IoFault
  | .resourceExhausted _ code _ => .system code.toNat
  | .resourceVanished code _ => .system code.toNat
  | .hardwareFault code _ => .system code.toNat
  | .otherError code _ => .system code.toNat
  | _ => .incomplete

/-- Writes to the output, and answers why that failed if it did. -/
def tryWrite (text : String) : IO (Option IoFault) := do
  try
    let output ← IO.getStdout
    output.putStr text
    output.flush
    return none
  catch e => return some (faultOf e)

end BenchRig.Main

open BenchRig in
/-- The program that runs the benchmark named on its command line. -/
def main (arguments : List String) : IO UInt32 := do
  let env ← Main.readEnvironment
  let around ← Main.readSurroundings
  let around ←
    match Command.Invocation.ofArguments arguments with
    | .ok i => Main.rehearse around i.kind
    | .error _ => pure around
  let run (sink : Report.Sink) : Exit := umbrella around env sink Main.client arguments
  let exit := run {}
  let exit ←
    match ← Main.tryWrite exit.output with
    | none => pure exit
    | some fault => pure (run { limit := some 0, fault })
  for line in exit.errors do
    (← IO.getStderr).putStrLn line
  return exit.code.toUInt32
