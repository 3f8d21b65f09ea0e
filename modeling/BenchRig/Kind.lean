/-!
# Benchmarks

The six benchmarks, and the kinds of pool they run on.
-/

namespace BenchRig

/-- What a pool runs its units on. -/
inductive PoolKind where
  /-- Threads, for units that compute. -/
  | cpu
  /-- Tasks that are admitted by permits, for units that wait. -/
  | io
  deriving DecidableEq, Repr

/-- The name of a kind of pool in messages. -/
def PoolKind.label : PoolKind → String
  | cpu => "cpu"
  | io => "io"

/-- A benchmark. -/
inductive Kind where
  /-- Six workloads, one after another. -/
  | micro
  /-- Counting workers, submitted and completed. -/
  | spawn
  /-- Counting workers, submitted only. -/
  | spawnOnly
  /-- Fetching workers. -/
  | fetch
  /-- Fewer fetching workers. -/
  | fetchLite
  /-- Fewer fetching workers, with peak memory. -/
  | fetchLiteMemory
  deriving DecidableEq, Repr

namespace Kind

/-- All benchmarks. -/
def all : List Kind := [micro, spawn, spawnOnly, fetch, fetchLite, fetchLiteMemory]

/-- The first line of the benchmark's report. -/
def title : Kind → String
  | micro => "=== Rust Benchmarks ==="
  | spawn => "=== Rust Spawn Benchmark ==="
  | spawnOnly => "=== Rust Spawn Benchmark (spawn time only) ==="
  | fetch => "=== Rust I/O-Bound Benchmark ==="
  | fetchLite | fetchLiteMemory => "=== Rust I/O-Bound Benchmark (100 workers) ==="

/-- The program that runs this benchmark alone. -/
def program : Kind → String
  | micro => "bench"
  | spawn => "spawn-bench"
  | spawnOnly => "spawn-bench-spawn-only"
  | fetch => "spawn-bench-fetch"
  | fetchLite => "spawn-bench-fetch-lite"
  | fetchLiteMemory => "spawn-bench-fetch-lite-memory"

/-- The kind of pool it runs on, if it runs on one. -/
def pool? : Kind → Option PoolKind
  | micro => none
  | spawn | spawnOnly => some .cpu
  | fetch | fetchLite | fetchLiteMemory => some .io

end Kind

end BenchRig
