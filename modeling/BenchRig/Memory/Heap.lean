import BenchRig.Memory.Counters

/-!
# Blocks

Blocks of memory are requested, resized and released. A request can be refused, which changes
nothing.
-/

namespace BenchRig.Memory

/-- The blocks that have been requested, and the counters. -/
structure Heap where
  /-- The sizes of the blocks in the order of their requests; nothing where no block is live. -/
  blocks : List (Option UInt64) := []
  /-- The counters. -/
  counters : Counters := {}
  /-- The sampler, once it has been started. -/
  sampler : Option Sampler := none

/-- What can be done with blocks. A request says how the system answers it; one for a block full of
zeros is counted like any other. -/
inductive Action where
  | allocate (size : UInt64) (granted : Bool)
  | resize (block : Nat) (size : UInt64) (granted : Bool)
  | release (block : Nat)
  | resetPeak
  | start
  | sample
  deriving DecidableEq, Repr

/-- Whether an action is one on a block, and not on the counters or the sampler. -/
def Action.onBlock : Action → Bool
  | allocate _ _ | resize _ _ _ | release _ => true
  | resetPeak | start | sample => false

/-- Whether a block of the given size fits into the address space of a process. -/
def fitsAddressSpace (size : UInt64) : Bool := size < 140737488355328

namespace Heap

/-- After an action, and whether a block was granted if one was requested. -/
def step (h : Heap) : Action → Heap × Option Bool
  | .allocate size granted =>
    if granted then
      ({ h with blocks := h.blocks ++ [some size], counters := h.counters.allocate size },
        some true)
    else ({ h with blocks := h.blocks ++ [none] }, some false)
  | .resize block size granted =>
    match h.blocks[block]? with
    | some (some old) =>
      if granted then
        ({ h with
            blocks := h.blocks.set block (some size)
            counters := h.counters.resize old size }, some true)
      else (h, some false)
    | _ => (h, some false)
  | .release block =>
    match h.blocks[block]? with
    | some (some size) =>
      ({ h with blocks := h.blocks.set block none, counters := h.counters.release size }, none)
    | _ => (h, none)
  | .resetPeak => ({ h with counters := h.counters.resetPeak }, none)
  | .start =>
    let (counters, sampler) := Sampler.start h.counters
    ({ h with counters, sampler := some sampler }, none)
  | .sample => ({ h with sampler := h.sampler.map fun s => s.observe h.counters }, none)

/-- The bytes of all live blocks. -/
def live (h : Heap) : Nat := h.blocks.foldr (fun b n => (b.map UInt64.toNat).getD 0 + n) 0

end Heap

end BenchRig.Memory
