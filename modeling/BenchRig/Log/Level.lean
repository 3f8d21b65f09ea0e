import BenchRig.Failure
import BenchRig.Text.Upper

/-!
# Levels of a log

How important an entry is.
-/

namespace BenchRig.Log

/-- The importance of an entry, from the least to the greatest. -/
inductive Level where
  | trace | debug | info | warn | error | fatal
  deriving DecidableEq, Repr

namespace Level

/-- All levels, from the least to the greatest. -/
def all : List Level := [trace, debug, info, warn, error, fatal]

/-- The place of the level in the order. -/
def rank : Level → Nat
  | trace => 0
  | debug => 1
  | info => 2
  | warn => 3
  | error => 4
  | fatal => 5

/-- The word for the level on a console. -/
def word : Level → String
  | trace => "TRACE"
  | debug => "DEBUG"
  | info => "INFO"
  | warn => "WARN"
  | error => "ERROR"
  | fatal => "FATAL"

/-- The name of the level for machines. -/
def name : Level → String
  | trace => "Trace"
  | debug => "Debug"
  | info => "Info"
  | warn => "Warn"
  | error => "Error"
  | fatal => "Fatal"

/-- The sequence that starts the level's colour. -/
def colour : Level → String
  | trace => "\x1b[37m"
  | debug => "\x1b[36m"
  | info => "\x1b[32m"
  | warn => "\x1b[33m"
  | error => "\x1b[31m"
  | fatal => "\x1b[35m"

/-- The sequence that ends a colour. -/
def reset : String := "\x1b[0m"

/-- Whether an entry of level `l` passes a threshold. -/
def passes (l threshold : Level) : Bool := threshold.rank ≤ l.rank

/-- The level that a word names, in any case of letters. -/
def ofWord? (s : String) : Option Level :=
  match Text.upper s with
  | "TRACE" => some trace
  | "DEBUG" => some debug
  | "INFO" => some info
  | "WARN" => some warn
  | "WARNING" => some warn
  | "ERROR" => some error
  | "FATAL" => some fatal
  | _ => none

/-- The level that a word names; any other word is a failure. -/
def ofWord (s : String) : Except Failure Level :=
  match ofWord? s with
  | some l => .ok l
  | none => .error ⟨.config, "Invalid log level: " ++ s⟩

end Level

end BenchRig.Log
