/-!
# Settings of a run

Whether output is coloured, and how much is told about the run on the side. Without a choice on the
command line the environment decides about colours.
-/

namespace BenchRig

/-- The variables of the environment that decide about colours. -/
structure Environment where
  /-- `NO_COLOR`; its mere presence counts. -/
  noColor : Option String := none
  /-- `FORCE_COLOR`; its mere presence counts. -/
  forceColor : Option String := none
  /-- `TERM`. -/
  term : Option String := none
  /-- Whether the report goes to a terminal. -/
  terminal : Bool := false

/-- Whether the report can show colours. -/
def Environment.supportsColour (env : Environment) : Bool :=
  if env.noColor.isSome then false
  else if env.forceColor.isSome then true
  else if env.term = some "dumb" then false
  else env.terminal

/-- How a run presents itself. -/
structure Settings where
  /-- Whether output is coloured. -/
  colour : Bool := false
  /-- Whether progress is logged. -/
  verbose : Bool := false
  /-- Whether everything is logged, for machines to read. -/
  debug : Bool := false
  deriving DecidableEq, Repr

/-- Neither colours nor diagnostics. -/
def Settings.plain : Settings := {}

/-- The settings of a run without a command line. -/
def Settings.default (env : Environment) : Settings := { colour := env.supportsColour }

end BenchRig
