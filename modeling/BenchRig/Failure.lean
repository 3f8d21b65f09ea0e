import BenchRig.Ansi.Basic

/-!
# Failures

Conditions that end a run. A failed request inside a worker is not one of them: it is data of that
worker's result. A failure is a cause, which decides category, exit code and colour, and a message.
A run that cannot go on may also panic, and then it answers nothing at all.
-/

namespace BenchRig

open Ansi (Colour Style paint)

/-- What kind of trouble ended a run. -/
inductive Cause where
  /-- Settings that contradict each other. -/
  | config
  /-- A plan with parameters out of range. -/
  | validation
  /-- The network could not be set up or reached. -/
  | network
  /-- A request could not be built or its answer not be read. -/
  | httpRequest
  /-- A request took too long. -/
  | timeout
  /-- A pool could not be built. -/
  | pool
  /-- A worker panicked or was lost. -/
  | worker
  /-- Submitted and collected workers disagree, or a result is wrong. -/
  | accounting
  /-- The report could not be written. -/
  | io
  /-- A workload produced a wrong value. -/
  | internal
  deriving DecidableEq, Repr

namespace Cause

/-- The words that introduce the message. -/
def label : Cause → String
  | config => "Configuration error"
  | validation => "Validation error"
  | network => "Network error"
  | httpRequest => "HTTP request error"
  | timeout => "Timeout error"
  | pool => "Pool error"
  | worker => "Worker error"
  | accounting => "Accounting error"
  | io => "I/O error"
  | internal => "Internal error"

/-- The short name used in log entries and on the console. -/
def category : Cause → String
  | config => "CONFIG"
  | validation => "VALIDATION"
  | network => "NETWORK"
  | httpRequest => "HTTP"
  | timeout => "TIMEOUT"
  | pool => "POOL"
  | worker => "WORKER"
  | accounting => "ACCOUNTING"
  | io => "IO"
  | internal => "INTERNAL"

/-- The exit code of a process that ends for this cause; never zero. -/
def exitCode : Cause → UInt8
  | config | validation => 1
  | network | httpRequest => 2
  | timeout => 3
  | io => 5
  | pool | worker | accounting => 6
  | internal => 99

/-- The colour of the message on a terminal. -/
def colour : Cause → Colour
  | config | validation => .red
  | network | httpRequest => .yellow
  | timeout => .blue
  | pool | worker | accounting | io => .cyan
  | internal => .brightRed

end Cause

/-- A cause together with what is known about this occurrence of it. -/
structure Failure where
  /-- The kind of trouble. -/
  cause : Cause
  /-- What happened, without the words that introduce it. -/
  message : String
  deriving DecidableEq, Repr

namespace Failure

/-- The whole sentence: the cause's label, then the message. -/
def display (f : Failure) : String := f.cause.label ++ ": " ++ f.message

/-- The same failure, seen from a wider context. -/
def within (context : String) (f : Failure) : Failure :=
  { f with message := context ++ ": " ++ f.message }

/-- The line printed for a failure: the category in brackets, then the sentence. -/
def console (f : Failure) : String :=
  "[" ++ f.cause.category ++ "] " ++ f.display

/-- The same line in the colour of the cause, its category in bold; `terminal` tells whether styles
are emitted at all. -/
def consoleStyled (terminal : Bool) (f : Failure) : String :=
  "[" ++ paint terminal { colour := f.cause.colour, bold := true } f.cause.category ++ "] "
    ++ paint terminal { colour := f.cause.colour } f.display

/-- The line for a failure, styled when `useColour` is set. -/
def formatForConsole (useColour terminal : Bool) (f : Failure) : String :=
  if useColour then f.consoleStyled terminal else f.console

end Failure

/-- Why something ended without what it was to answer. -/
inductive Abort where
  /-- It answered a failure. -/
  | failure (f : Failure)
  /-- It panicked. -/
  | panic (message : String)
  deriving DecidableEq, Repr

end BenchRig
