import BenchRig.Codec.Plan
import BenchRig.Log.Entry

/-!
# Entries of a log as JSON, read back

An entry is decoded from the object that it is written as. Fields keep the last value of each key.
-/

namespace BenchRig.Log

open Json

/-- Decodes a level. -/
def Level.decode : Decoder Level := decodeNamed Level.name Level.all

/-- The shape of a location. -/
def Location.shape : Shape :=
  .of "struct LogLocation"
    [.of "file" text, .of "line" uint32, .of "module" (optional text)]

/-- Decodes a location. -/
def Location.decode : Decoder Location := fun depth d => do
  let r ← shape.decode depth d
  return ⟨← r.get "file" text, ← r.get "line" uint32,
    (← r.get? "module" (optional text)).getD none⟩

/-- Decodes a timestamp. -/
def Timestamp.decode : Decoder Timestamp := fun depth d => do
  let s ← textOf "an RFC 3339 formatted date and time string" depth d
  match Timestamp.ofText s with
  | .ok t => return t
  | .error f => reject (.other f.message)

/-- The shape of an entry. -/
def Entry.shape : Shape :=
  .of "struct LogEntry"
    [.of "timestamp" Timestamp.decode, .of "level" Level.decode, .of "message" text,
     .of "logger" text, .of "fields" members, .of "thread_id" (optional text),
     .of "location" (optional Location.decode)]

/-- Decodes an entry. -/
def Entry.decode : Decoder Entry := fun depth d => do
  let r ← shape.decode depth d
  return {
    timestamp := ← r.get "timestamp" Timestamp.decode
    level := ← r.get "level" Level.decode
    message := ← r.get "message" text
    logger := ← r.get "logger" text
    fields := .ofList (← r.get "fields" members)
    thread := (← r.get? "thread_id" (optional text)).getD none
    location := (← r.get? "location" (optional Location.decode)).getD none }

end BenchRig.Log
