import BenchRig.Log.Entry
import BenchRig.Settings

/-!
# Loggers

A logger writes the entries that reach its level. Loggers that come from one another form a family:
each member has a level of its own, and all share the session and the place where entries go.
-/

namespace BenchRig.Log

open Json (Value)

/-- How entries are written. -/
inductive Format where
  /-- One line for people. -/
  | console
  /-- One JSON object in a line. -/
  | json
  deriving DecidableEq, Repr

/-- A logger. -/
structure Logger where
  /-- Its name. -/
  name : String
  /-- The least level that is written. -/
  threshold : Level := .warn
  /-- Whether levels are coloured on a console. -/
  colour : Bool := false
  /-- Whether locations are shown on a console. -/
  showLocation : Bool := false
  /-- How entries are written. -/
  format : Format := .console
  deriving DecidableEq, Repr

namespace Logger

/-- The logger that the settings of a run ask for. -/
def ofSettings (name : String) (settings : Settings) : Logger where
  name := name
  threshold := if settings.debug then .debug else if settings.verbose then .info else .warn
  colour := settings.colour
  showLocation := settings.debug
  format := if settings.debug then .json else .console

/-- Whether an entry of the given level is written. -/
def wouldLog (l : Logger) (level : Level) : Bool := level.passes l.threshold

/-- The text of an entry, without the line's end. -/
def render (l : Logger) (e : Entry) : String :=
  match l.format with
  | .console => e.console l.colour l.showLocation
  | .json => e.toJson.text

end Logger

/-- The session under its key, if there is one. -/
def withSession (session : Option String) (fs : Fields) : Fields :=
  match session with
  | some id => fs.insert sessionKey (.string id)
  | none => fs

/-- What a logger writes for an entry within a session: nothing, or one line. -/
def Logger.lines (l : Logger) (session : Option String) (e : Entry) : List String :=
  if l.wouldLog e.level then [l.render { e with fields := withSession session e.fields }] else []

/-- What is to be logged, before time, thread and logger are known. -/
structure Event where
  /-- Its level. -/
  level : Level
  /-- What happened. -/
  message : String
  /-- Keys and values in the order in which they are set. -/
  fields : List (String × Value) := []
  /-- Where it happened, if that is known. -/
  location : Option Location := none

/-- The keys and values that describe a failure. -/
def failureFields (f : Failure) : List (String × Value) :=
  [("error_category", .string f.cause.category),
   ("error_exit_code", .ofNat f.cause.exitCode.toNat)]

/-- What can be added to an event before it is logged. -/
inductive Detail where
  /-- A value under a key, unless it is one that cannot be written. -/
  | field (key : String) (value : Option Value)
  /-- Where it happened. -/
  | location (l : Location)
  /-- What describes a failure. -/
  | failure (f : Failure)

namespace Event

/-- The event with one more detail. -/
def add (e : Event) : Detail → Event
  | .field key (some value) => { e with fields := e.fields ++ [(key, value)] }
  | .field _ none => e
  | .location l => { e with location := some l }
  | .failure f => { e with fields := e.fields ++ failureFields f }

/-- An event with details, in the order in which they are added. -/
def build (level : Level) (message : String) (details : List Detail) : Event :=
  details.foldl add { level, message }

end Event

/-- When and where something is logged. -/
structure Moment where
  /-- The time. -/
  timestamp : Timestamp
  /-- The thread, if it has a name. -/
  thread : Option String := some "main"

/-- The entry that a logger makes of an event. -/
def Logger.entry (l : Logger) (moment : Moment) (e : Event) : Entry where
  timestamp := moment.timestamp
  level := e.level
  message := e.message
  logger := l.name
  fields := .ofList e.fields
  thread := moment.thread
  location := e.location

/-- What a logger writes for an event. -/
def Logger.log (l : Logger) (session : Option String) (moment : Moment) (e : Event) :
    List String :=
  l.lines session (l.entry moment e)

/-! ## Families -/

/-- Loggers that come from one another. -/
structure Family where
  /-- The members, in the order in which they were made. -/
  members : List Logger
  /-- The session they share. -/
  session : Option String := none
  /-- The lines they have written. -/
  written : List String := []

namespace Family

/-- The family of one logger. -/
def single (l : Logger) : Family := { members := [l] }

/-- Makes a new member like the given one. -/
def clone (f : Family) (i : Nat) : Family :=
  { f with members := f.members ++ (f.members[i]?).toList }

/-- Sets the level of one member. -/
def setLevel (f : Family) (i : Nat) (level : Level) : Family :=
  { f with members := f.members.modify i fun l => { l with threshold := level } }

/-- Sets the session of the whole family. -/
def setSession (f : Family) (id : String) : Family := { f with session := some id }

/-- Logs through one member. -/
def log (f : Family) (i : Nat) (moment : Moment) (e : Event) : Family :=
  match f.members[i]? with
  | some l => { f with written := f.written ++ l.log f.session moment e }
  | none => f

end Family

end BenchRig.Log
