import BenchRig.App
import BenchRig.Command.Parse

/-!
# Programs

What a process leaves behind: its exit code, and what it has written to its two outputs.
-/

namespace BenchRig

open Command (Invocation Stop)
open Pool (Client)
open Report (Sink Theme Writer)

/-- What a process leaves behind. -/
structure Exit where
  /-- The exit code. -/
  code : UInt8
  /-- What it wrote to its output. -/
  output : String
  /-- The lines it wrote to its error output. -/
  errors : List String

/-- The settings and the writer of a process with the given output. -/
def processWriter (settings : Settings) (sink : Sink) : Writer where
  theme := .ofColour settings.colour
  terminal := settings.colour
  sink := sink

/-! ## Panics -/

/-- The lines about a panic on a thread, whose name may be empty, and the exit code if the panic
ends the process: on the main thread it does. -/
def panicReport (thread message location : String) : List String × Option UInt8 :=
  let name := if thread.isEmpty then "unnamed" else thread
  (Text.lines
    ("Panic in thread '" ++ name ++ "': panicked at " ++ location ++ ":\n" ++ message ++ "\n"),
    if name = "main" then some 1 else none)

/-! ## Benchmarks -/

/-- Runs a benchmark as a process of its own. -/
def runProcess (around : Surroundings) (settings : Settings) (sink : Sink) (client : Client)
    (kind : Kind) : Exit :=
  let ran := runApp around settings (processWriter settings sink) client kind
  let output := ran.writer.sink.contents
  match ran.outcome with
  | .ok () => ⟨0, output, ran.diagnostics⟩
  | .error (.failure f) =>
    ⟨f.cause.exitCode, output,
      ran.diagnostics ++ reportFailure around settings settings.colour f kind.program⟩
  | .error (.panic message) =>
    let (lines, code) := panicReport "main" message around.site
    ⟨code.getD 0, output, ran.diagnostics ++ lines⟩

/-- The program that runs one benchmark and takes no arguments. -/
def standalone (around : Surroundings) (env : Environment) (sink : Sink) (client : Client)
    (kind : Kind) : Exit :=
  runProcess around (.default env) sink client kind

/-- What a process leaves behind that ends with its command line. -/
def Stop.exit (sink : Sink) (s : Stop) : Exit :=
  if s.isSuccess then
    ⟨s.exitCode, (sink.write (Text.encode s.message)).1.contents, []⟩
  else ⟨s.exitCode, "", Text.lines s.message⟩

/-- The program that runs the benchmark named on its command line. -/
def umbrella (around : Surroundings) (env : Environment) (sink : Sink) (client : Client)
    (arguments : List String) : Exit :=
  match Invocation.ofArguments arguments with
  | .error s => Stop.exit sink s
  | .ok i =>
    match i.settings env with
    | .error f =>
      ⟨f.cause.exitCode, "", reportFailure around .plain false f Command.programName⟩
    | .ok settings => runProcess around settings sink client i.kind

end BenchRig
