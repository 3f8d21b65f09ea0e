import BenchRig.Json.Printer
import BenchRig.Log.Level
import BenchRig.Log.Timestamp

/-!
# Entries of a log

An entry says when, by whom and at what level something was logged, and carries fields: values under
distinct keys.
-/

namespace BenchRig.Log

open Json (Value)

/-- Values under distinct keys. -/
structure Fields where
  /-- Keys and values, the last one set at the end. -/
  entries : List (String × Value)
  /-- No key occurs twice. -/
  nodup : (entries.map Prod.fst).Nodup

namespace Fields

/-- No fields. -/
def empty : Fields := ⟨[], List.nodup_nil⟩

instance : Inhabited Fields := ⟨empty⟩

/-- The value under a key. -/
def get? (fs : Fields) (key : String) : Option Value :=
  (fs.entries.find? fun e => e.1 == key).map (·.2)

/-- Without the value under a key. -/
def erase (fs : Fields) (key : String) : Fields where
  entries := fs.entries.filter fun e => e.1 != key
  nodup := (List.filter_sublist.map Prod.fst).nodup fs.nodup

/-- With `value` under `key` and nothing else there. -/
def insert (fs : Fields) (key : String) (value : Value) : Fields where
  entries := (fs.erase key).entries ++ [(key, value)]
  nodup := by
    rw [List.map_append, List.nodup_append]
    refine ⟨(fs.erase key).nodup, by simp, ?_⟩
    simp [erase]

/-- The fields that a list of keys and values gives; of equal keys the last one counts. -/
def ofList (entries : List (String × Value)) : Fields :=
  entries.foldl (fun fs e => fs.insert e.1 e.2) empty

end Fields

/-- A place in a program. -/
structure Location where
  /-- The file. -/
  file : String
  /-- The line. -/
  line : UInt32
  /-- The module, if it is known. -/
  module : Option String
  deriving DecidableEq, Repr

/-- An entry of a log. -/
structure Entry where
  /-- When it was logged. -/
  timestamp : Timestamp
  /-- Its level. -/
  level : Level
  /-- What happened. -/
  message : String
  /-- The name of the logger. -/
  logger : String
  /-- Values that belong to it. -/
  fields : Fields
  /-- The thread that logged it, if it has a name. -/
  thread : Option String
  /-- Where it was logged, if that is known. -/
  location : Option Location

/-- The key under which the session is kept; consoles do not show it. -/
def sessionKey : String := "session_id"

namespace Entry

/-- The word of the level, right-aligned in five columns. -/
def levelColumn (l : Level) : String :=
  String.ofList (List.replicate (5 - l.word.length) ' ') ++ l.word

/-- The fields as they are shown: `key=value`, sorted as text. -/
def fieldTexts (fs : Fields) : List String :=
  ((fs.entries.filter fun e => e.1 != sessionKey).map fun e => e.1 ++ "=" ++ e.2.text).mergeSort
    fun a b => a ≤ b

/-- The entry on one line of a console. -/
def console (colour showLocation : Bool) (e : Entry) : String :=
  let level := levelColumn e.level
  let level := if colour then e.level.colour ++ level ++ Level.reset else level
  let fields := fieldTexts e.fields
  let fields := if fields.isEmpty then "" else " \x7b" ++ ", ".intercalate fields ++ "\x7d"
  let place :=
    match e.location with
    | some l => if showLocation then " @ " ++ l.file ++ ":" ++ Decimal.text l.line.toNat else ""
    | none => ""
  e.timestamp.console ++ " " ++ level ++ " [" ++ e.logger ++ "] " ++ e.message ++ fields ++ place

end Entry

/-- A location as a JSON value. -/
def Location.toJson (l : Location) : Value :=
  .object [("file", .string l.file), ("line", .ofNat l.line.toNat),
    ("module", .ofString? l.module)]

/-- An entry as a JSON value. -/
def Entry.toJson (e : Entry) : Value :=
  .object [
    ("timestamp", .string e.timestamp.machine),
    ("level", .string e.level.name),
    ("message", .string e.message),
    ("logger", .string e.logger),
    ("fields", .object e.fields.entries),
    ("thread_id", .ofString? e.thread),
    ("location", (e.location.map Location.toJson).getD .null)]

end BenchRig.Log
