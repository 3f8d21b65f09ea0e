import BenchRig.Json.Decoder
import BenchRig.Kind
import BenchRig.Measurement
import BenchRig.Plan
import BenchRig.Settings

/-!
# Plans, settings and measurements as JSON

Records are objects in the declared order of their fields. A setting that is left out takes its
default value.
-/

namespace BenchRig

open Json

/-! ## Writing -/

/-- Settings as a JSON value. -/
def Settings.toJson (s : Settings) : Value :=
  .object [("enable_color", .bool s.colour), ("verbose", .bool s.verbose),
    ("debug", .bool s.debug)]

/-- A plan for counting workers as a JSON value. -/
def SpawnPlan.toJson (p : SpawnPlan) : Value :=
  .object [("workers", .ofNat p.workers.toNat), ("iterations", .ofNat p.iterations.toNat)]

/-- A duration as a JSON value. -/
def Duration.toJson (d : Duration) : Value :=
  .object [("secs", .ofNat d.seconds), ("nanos", .ofNat d.subsecond)]

/-- A plan for fetching workers as a JSON value. -/
def FetchPlan.toJson (p : FetchPlan) : Value :=
  .object [("workers", .ofNat p.workers.toNat), ("attempts", .ofNat p.attempts.toNat),
    ("endpoint", .string p.endpoint), ("request_timeout", p.timeout.toJson)]

/-- A measurement as a JSON value. -/
def Measurement.toJson (m : Measurement) : Value :=
  .object [("name", .string m.name), ("elapsed_ms", .ofFloat m.elapsed)]

/-- The name of a benchmark for machines. -/
def Kind.name : Kind → String
  | micro => "Micro"
  | spawn => "Spawn"
  | spawnOnly => "SpawnOnly"
  | fetch => "Fetch"
  | fetchLite => "FetchLite"
  | fetchLiteMemory => "FetchLiteMemory"

/-- The name of a kind of pool for machines. -/
def PoolKind.name : PoolKind → String
  | cpu => "Cpu"
  | io => "Io"

/-! ## Reading -/

/-- The shape of settings. -/
def Settings.shape : Shape :=
  .of "struct Config"
    [.of "enable_color" boolean true, .of "verbose" boolean true, .of "debug" boolean true]

/-- Decodes settings; the environment gives the colour that is left out. -/
def Settings.decode (env : Environment) : Decoder Settings := fun depth d => do
  let r ← shape.decode depth d
  let colour ← r.get? "enable_color" boolean
  let verbose ← r.get? "verbose" boolean
  let debug ← r.get? "debug" boolean
  return ⟨colour.getD env.supportsColour, verbose.getD false, debug.getD false⟩

/-- The shape of a plan for counting workers. -/
def SpawnPlan.shape : Shape :=
  .of "struct SpawnConfig" [.of "workers" uint32, .of "iterations" uint64]

/-- Decodes a plan for counting workers. -/
def SpawnPlan.decode : Decoder SpawnPlan := fun depth d => do
  let r ← shape.decode depth d
  return ⟨← r.get "workers" uint32, ← r.get "iterations" uint64⟩

/-- The shape of a duration, which has no other fields. -/
def Duration.shape : Shape where
  expected := "struct Duration"
  counted := "struct Duration"
  fields := [.of "secs" uint64, .of "nanos" uint32]
  closed := true

/-- The duration of seconds and nanoseconds; more than a second of those carries over. -/
def Duration.checked (seconds : UInt64) (nanoseconds : UInt32) : Except Fault Duration :=
  match ofParts? seconds.toNat nanoseconds.toNat with
  | some d => .ok d
  | none => reject (.other "overflow deserializing Duration")

/-- Decodes a duration. A sequence is checked before its end is reached. -/
def Duration.decode : Decoder Duration := fun depth d => do
  match d with
  | .array items flaw => do
    let depth ← enter depth
    let drafts ← assignItems shape none depth 0 shape.fields (items.take 2)
      |>.mapError fun f => if items.length < 2 then (flaw.elim f (.grammar ·.wanted)) else f
    let r : Record := ⟨drafts, depth⟩
    let duration ← checked (← r.get "secs" uint64) (← r.get "nanos" uint32)
    afterFields (items.drop 2) flaw
    return duration
  | d =>
    let r ← shape.decode depth d
    checked (← r.get "secs" uint64) (← r.get "nanos" uint32)

/-- The shape of a plan for fetching workers. -/
def FetchPlan.shape : Shape :=
  .of "struct FetchConfig"
    [.of "workers" uint32, .of "attempts" uint32, .of "endpoint" text,
     .of "request_timeout" Duration.decode]

/-- Decodes a plan for fetching workers. -/
def FetchPlan.decode : Decoder FetchPlan := fun depth d => do
  let r ← shape.decode depth d
  return ⟨← r.get "workers" uint32, ← r.get "attempts" uint32, ← r.get "endpoint" text,
    ← r.get "request_timeout" Duration.decode⟩

/-- The shape of a measurement. -/
def Measurement.shape : Shape :=
  .of "struct Measurement" [.of "name" text, .of "elapsed_ms" double]

/-- Decodes a measurement. -/
def Measurement.decode : Decoder Measurement := fun depth d => do
  let r ← shape.decode depth d
  return ⟨← r.get "name" text, ← r.get "elapsed_ms" double⟩

/-- The alternative of a list that has the given name; the list is not empty. -/
def named? {α : Type} (name : α → String) (all : List α) (wanted : String) : Option α :=
  all.find? fun a => name a == wanted

/-- Decodes one of several values that are known by their names. -/
def decodeNamed {α : Type} (name : α → String) (all : List α) : Decoder α :=
  alternative (all.map name) fun wanted content depth => do
    bare content depth
    match named? name all wanted with
    | some a => return a
    | none => reject (.unknownVariant wanted (all.map name))

/-- Decodes a benchmark. -/
def Kind.decode : Decoder Kind := decodeNamed Kind.name Kind.all

/-- Decodes a kind of pool. -/
def PoolKind.decode : Decoder PoolKind := decodeNamed PoolKind.name [.cpu, .io]

/-- What a JSON value is called where another one is expected. -/
def Json.Value.found : Value → Found
  | .null => .null
  | .bool b => .bool b
  | .integer n => .integer n.val
  | .double x => .double x
  | .string s => .string s
  | .array _ => .sequence
  | .object _ => .map

/-- The benchmark that a JSON value names: a text, or an object with one member that is `null`. -/
def Kind.ofJson (v : Value) : Except DataFault Kind :=
  let find (name : String) : Except DataFault Kind :=
    match named? Kind.name all name with
    | some k => .ok k
    | none => .error (.unknownVariant name (all.map Kind.name))
  match v with
  | .string s => find s
  | .object [(name, content)] => do
    let k ← find name
    match content with
    | .null => return k
    | v => throw (.wrongType v.found "unit")
  | .object _ => .error (.wrongValue .map "map with a single key")
  | v => .error (.wrongType v.found "string or map")

end BenchRig
