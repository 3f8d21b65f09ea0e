import BenchRig.Decimal.Numeral
import BenchRig.Failure
import BenchRig.Kind

/-!
# Shapes of pools

What a pool runs, how many units it runs at the same time, and how many threads drive it. A pool
that is built for a shape holds a semaphore with a permit for each unit that may run, and a
semaphore has room for so many permits only.
-/

namespace BenchRig.Pool

/-- The shape of a pool. -/
structure Config where
  /-- What the pool runs its units on. -/
  kind : PoolKind
  /-- How many units run at the same time. -/
  capacity : UInt64
  /-- How many threads drive the pool. -/
  threads : UInt64
  deriving DecidableEq, Repr

/-- Why a shape is refused. -/
inductive ConfigFault where
  | noCapacity
  | noThreads
  deriving DecidableEq, Repr

namespace ConfigFault

/-- What the fault says. -/
def message : ConfigFault → String
  | noCapacity => "Pool capacity must be greater than 0"
  | noThreads => "Pool needs at least one scheduler thread"

/-- The failure of a run that needs such a pool. -/
def failure (f : ConfigFault) : Failure := ⟨.pool, f.message⟩

end ConfigFault

/-- What comes of starting the threads that drive a pool, which is up to the system. -/
inductive Launch where
  /-- They have started. -/
  | started
  /-- The system refuses them. -/
  | refused (reason : String)
  /-- Starting them panics. -/
  | panicked (message : String)
  deriving DecidableEq, Repr

/-- The greatest number of permits of a semaphore, which counts them in a word of 64 bits and keeps
three of these to itself. -/
def maxPermits : Nat := 2305843009213693951

/-- What a semaphore says that is asked for more permits. -/
def tooManyPermits : String :=
  "a semaphore may not have more than MAX_PERMITS permits (" ++ Decimal.text maxPermits ++ ")"

namespace Config

/-- A pool for units that compute, on a machine with the given number of processors. -/
def cpu (processors : UInt32) : Config := ⟨.cpu, max processors.toUInt64 1, 1⟩

/-- A pool in which all of a number of workers can wait at the same time. -/
def io (processors : UInt32) (workers : UInt32) : Config :=
  ⟨.io, max workers.toUInt64 1, max processors.toUInt64 1⟩

/-- The same pool with another capacity. -/
def withCapacity (c : Config) (capacity : UInt64) : Config := { c with capacity }

/-- Checks that the shape is one of a pool. -/
def check (c : Config) : Except ConfigFault Unit :=
  if c.capacity = 0 then .error .noCapacity
  else if c.threads = 0 then .error .noThreads
  else .ok ()

/-- The failure of a run with this pool, if its shape is refused. -/
def validate (c : Config) : Except Failure Unit := c.check.mapError ConfigFault.failure

/-- The failure of a run whose pool the system has no threads for. -/
def unlaunched (c : Config) (reason : String) : Failure :=
  ⟨.pool, "Failed to build " ++ c.kind.label ++ " pool: " ++ reason⟩

/-- Builds a pool: its shape is checked, its threads are started, and then its semaphore is made. -/
def build (c : Config) (launch : Launch) : Except Abort Unit :=
  match c.validate with
  | .error f => .error (.failure f)
  | .ok () =>
    match launch with
    | .refused reason => .error (.failure (c.unlaunched reason))
    | .panicked message => .error (.panic message)
    | .started => if maxPermits < c.capacity.toNat then .error (.panic tooManyPermits) else .ok ()

end Config

end BenchRig.Pool
