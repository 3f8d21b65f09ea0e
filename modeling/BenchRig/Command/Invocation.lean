import BenchRig.Failure
import BenchRig.Kind
import BenchRig.Settings

/-!
# Invocations

What the command line asks for: a benchmark, and flags about how to present it. Flags may stand in
front of the benchmark's name or behind it.
-/

namespace BenchRig.Command

/-- The flags of the command line. -/
inductive Flag where
  | color | noColor | verbose | debug
  deriving DecidableEq, Repr

/-- All flags. -/
def Flag.all : List Flag := [.color, .noColor, .verbose, .debug]

/-- The flag as it is written, without its hyphens. -/
def Flag.name : Flag → String
  | .color => "color"
  | .noColor => "no-color"
  | .verbose => "verbose"
  | .debug => "debug"

/-- The name of the command that runs a benchmark. -/
def commandName : Kind → String
  | .micro => "micro"
  | .spawn => "spawn"
  | .spawnOnly => "spawn-only"
  | .fetch => "fetch"
  | .fetchLite => "fetch-lite"
  | .fetchLiteMemory => "fetch-lite-memory"

/-- The benchmark that a command runs. -/
def ofCommand? (name : String) : Option Kind := Kind.all.find? fun k => commandName k == name

/-- What the command line asks for. -/
structure Invocation where
  /-- The flags that are given. -/
  flags : List Flag
  /-- The benchmark. -/
  kind : Kind
  deriving DecidableEq, Repr

namespace Invocation

/-- Whether a flag is given. -/
def has (i : Invocation) (f : Flag) : Bool := f ∈ i.flags

/-- What is contradictory about the flags. -/
def conflict? (i : Invocation) : Option String :=
  if i.has .color && i.has .noColor then some "Cannot specify both --color and --no-color"
  else none

/-- Whether output is coloured: the flags decide, and without them the environment. -/
def useColour (env : Environment) (i : Invocation) : Bool :=
  if i.has .color then true
  else if i.has .noColor then false
  else env.supportsColour

/-- The settings that an invocation asks for. -/
def settings (env : Environment) (i : Invocation) : Except Failure Settings :=
  match i.conflict? with
  | some message => .error ⟨.config, message⟩
  | none => .ok ⟨i.useColour env, i.has .verbose, i.has .debug⟩

end Invocation

end BenchRig.Command
