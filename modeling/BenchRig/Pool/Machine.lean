import BenchRig.Memory.Heap
import BenchRig.Pool.Config
import BenchRig.Pool.Task
import BenchRig.Text.Quoted

/-!
# Pools at work

The state of a pool and what can happen next. Units are submitted, wait for a permit of their lane,
take steps of their own in any order, end, give the permit back, and are collected. At any time
blocks of memory may be requested, resized and released. A step that is not possible in a state has
no next state.
-/

namespace BenchRig.Pool

open Memory (Action Heap)

/-- How a unit is run. -/
inductive Lane where
  /-- On a thread of its own while it runs. -/
  | thread
  /-- As a task that needs a permit to start. -/
  | permit
  deriving DecidableEq, Repr

/-- Who tells the log: the dispatcher, or the unit at a place in the order of submission. -/
inductive Teller where
  | dispatcher
  | worker (i : Nat)
  deriving DecidableEq, Repr

/-- A call of the client. -/
structure Call where
  /-- The place of the unit that made it. -/
  caller : Nat
  /-- Where it went. -/
  url : String
  deriving DecidableEq, Repr

/-- What units share: the client's calls, the memory, and the log. -/
structure World where
  /-- The calls made so far. -/
  calls : Array Call := #[]
  /-- The blocks of memory and the counters that follow them. -/
  heap : Heap := {}
  /-- Whether anything counts what is done with blocks. -/
  tracked : Bool := true
  /-- What the log was told. -/
  told : Array (Teller × Log.DispatchEvent) := #[]

namespace World

/-- After a call has been started, which has the number of calls before it. -/
def startCall (w : World) (c : Call) : World := { w with calls := w.calls.push c }

/-- After something has been done with a block of memory, which shows only where it is counted. -/
def use (w : World) (a : Action) : World :=
  if w.tracked ∧ a.onBlock then { w with heap := (w.heap.step a).1 } else w

/-- The world of a process in which blocks are counted from the start, or not at all: without that,
no block is known, and every counter stands at zero. -/
def track (w : World) (tracked : Bool) : World :=
  if tracked then { w with tracked } else { w with tracked, heap := {} }

/-- After the log has been told. -/
def tell (w : World) (teller : Teller) (e : Log.DispatchEvent) : World :=
  { w with told := w.told.push (teller, e) }

end World

/-- Where a unit is in its life. -/
inductive Phase where
  /-- It waits for a permit. -/
  | waiting (t : Task)
  /-- It can take a step. -/
  | active (t : Task)
  /-- It waits for the answer to call number `k`. -/
  | calling (k : Nat) (next : Reply → Task)
  /-- It has ended. -/
  | ended (e : Ending)
  /-- It has been collected. -/
  | collected

/-- A unit of a pool. -/
structure Job where
  /-- How it is run. -/
  lane : Lane
  /-- Where it is in its life. -/
  phase : Phase

/-- A pool with its units. -/
structure Machine where
  /-- How many more units may run as threads. -/
  freeThreads : Nat
  /-- How many more units may run as tasks. -/
  freePermits : Nat
  /-- The units, in the order of submission. -/
  jobs : Array Job := #[]
  /-- The results collected, in the order of collection. -/
  results : Array WorkerResult := #[]
  /-- The place and the message of the first panic that was collected. -/
  panicked : Option (Nat × String) := none
  /-- What the units share. -/
  world : World := {}

/-- What a unit can do; units are named by their place in the order of submission. -/
inductive Move where
  /-- It gets a permit. -/
  | launch (i : Nat)
  /-- It takes a step of its own. -/
  | advance (i : Nat)
  /-- Its call is answered. -/
  | answer (i : Nat)
  deriving DecidableEq, Repr

/-- What can happen in a pool. -/
inductive Event where
  /-- A unit is submitted. -/
  | submit (lane : Lane) (t : Task)
  /-- A unit does something. -/
  | move (v : Move)
  /-- Somebody, a unit or the pool itself, does something with a block of memory. -/
  | memory (a : Action)
  /-- What came of a unit is collected. -/
  | collect (i : Nat)

namespace Machine

/-- How many threads a pool has for units that must not wait. -/
def threadLimit (c : Config) : Nat :=
  match c.kind with
  | .cpu => c.capacity.toNat
  | .io => 512

/-- A new pool. -/
def start (c : Config) (world : World) : Machine where
  freeThreads := threadLimit c
  freePermits := c.capacity.toNat
  world := world

/-- How many more units of a lane may run. -/
def free (m : Machine) : Lane → Nat
  | .thread => m.freeThreads
  | .permit => m.freePermits

/-- Takes a permit of a lane. -/
def take (m : Machine) : Lane → Machine
  | .thread => { m with freeThreads := m.freeThreads - 1 }
  | .permit => { m with freePermits := m.freePermits - 1 }

/-- Gives a permit of a lane back. -/
def give (m : Machine) : Lane → Machine
  | .thread => { m with freeThreads := m.freeThreads + 1 }
  | .permit => { m with freePermits := m.freePermits + 1 }

/-- Moves a unit on. -/
def move (m : Machine) (i : Nat) (lane : Lane) (phase : Phase) : Machine :=
  { m with jobs := m.jobs.setIfInBounds i ⟨lane, phase⟩ }

/-- Ends a unit. -/
def finish (m : Machine) (i : Nat) (lane : Lane) (e : Ending) : Machine :=
  (m.move i lane (.ended e)).give lane

/-- Submits a unit. -/
def submit (m : Machine) (lane : Lane) (t : Task) : Machine :=
  { m with jobs := m.jobs.push ⟨lane, .waiting t⟩ }

/-- The state after a move, if the move is possible. -/
def go (client : Client) (m : Machine) : Move → Option Machine
  | .launch i =>
    match m.jobs[i]? with
    | some ⟨lane, .waiting t⟩ =>
      if 0 < m.free lane then some ((m.take lane).move i lane (.active t)) else none
    | _ => none
  | .advance i =>
    match m.jobs[i]? with
    | some ⟨lane, .active (.done r)⟩ => some (m.finish i lane (.ok r))
    | some ⟨lane, .active (.panic message)⟩ => some (m.finish i lane (.error message))
    | some ⟨lane, .active (.call url next)⟩ =>
      let k := m.world.calls.size
      some ({ m with world := m.world.startCall ⟨i, url⟩ }.move i lane (.calling k next))
    | some ⟨lane, .active (.tell e next)⟩ =>
      some ({ m with world := m.world.tell (.worker i) e }.move i lane (.active next))
    | _ => none
  | .answer i =>
    match m.jobs[i]? with
    | some ⟨lane, .calling k next⟩ =>
      match client k with
      | .reply r => some (m.move i lane (.active (next r)))
      | .panic message => some (m.finish i lane (.error message))
    | _ => none

/-- The state after something has been done with a block of memory. -/
def use (m : Machine) (a : Action) : Machine := { m with world := m.world.use a }

/-- Collects the unit at place `i`, if it has ended and no panic has been collected: the state after
it, and how the unit ended. -/
def collect? (m : Machine) (i : Nat) : Option (Machine × Ending) :=
  if m.panicked.isSome then none
  else
    match m.jobs[i]? with
    | some ⟨lane, .ended (.ok r)⟩ =>
      some ({ m.move i lane .collected with results := m.results.push r }, .ok r)
    | some ⟨lane, .ended (.error message)⟩ =>
      some ({ m.move i lane .collected with panicked := some (i, message) }, .error message)
    | _ => none

/-- The state after an event, if the event is possible. -/
def step (client : Client) (m : Machine) : Event → Option Machine
  | .submit lane t => some (m.submit lane t)
  | .move v => m.go client v
  | .memory a => some (m.use a)
  | .collect i => (m.collect? i).map (·.1)

/-- The state after events, if each of them is possible in its turn. -/
def run (client : Client) (m : Machine) : List Event → Option Machine
  | [] => some m
  | e :: es => (m.step client e).bind fun m => m.run client es

/-- The state after a move; a move that is not possible changes nothing. -/
def play (client : Client) (m : Machine) (v : Move) : Machine := (m.go client v).getD m

/-- The state after something that may happen at any time: a move, or something done with a block of
memory. Submissions and collections are in the hands of the dispatcher. -/
def stir (client : Client) (m : Machine) : Event → Machine
  | .move v => m.play client v
  | .memory a => m.use a
  | .submit _ _ | .collect _ => m

/-- Whether a unit has ended. -/
def isOver (j : Job) : Bool :=
  match j.phase with
  | .ended _ | .collected => true
  | _ => false

/-- How many units have not ended. -/
def pending (m : Machine) : Nat := (m.jobs.filter fun j => !isOver j).size

/-! ## One unit after another -/

/-- Lets an active unit go on until it ends. -/
def complete (client : Client) (i : Nat) : Task → Machine → Machine
  | .done _, m => m.play client (.advance i)
  | .panic _, m => m.play client (.advance i)
  | .tell _ next, m => complete client i next (m.play client (.advance i))
  | .call _ next, m =>
    let k := m.world.calls.size
    let m := (m.play client (.advance i)).play client (.answer i)
    match client k with
    | .reply r => complete client i (next r) m
    | .panic _ => m

/-- Submits units in order; `early k` is what happens once `k` of them have been submitted. -/
def submitAll (client : Client) (early : Nat → List Event) (lane : Lane) (tasks : List Task)
    (m : Machine) : Machine :=
  tasks.foldl (fun m t =>
    let m := m.submit lane t
    (early m.jobs.size).foldl (stir client) m) m

/-- Lets the unit at place `i` go on until it ends, if it has started. -/
def settle (client : Client) (m : Machine) (i : Nat) : Machine :=
  match m.jobs[i]? with
  | some ⟨_, .active t⟩ => complete client i t m
  | some ⟨_, .calling k next⟩ =>
    let m := m.play client (.answer i)
    match client k with
    | .reply r => complete client i (next r) m
    | .panic _ => m
  | _ => m

/-- Gives the unit at place `i` a permit, if it waits for one, and lets it go on until it ends. -/
def runJob (client : Client) (m : Machine) (i : Nat) : Machine :=
  (m.play client (.launch i)).settle client i

/-- Lets all units go on until they end, one after another: first those that have started, and then,
with all permits given back, those that wait. -/
def runAll (client : Client) (m : Machine) : Machine :=
  let places := List.range m.jobs.size
  places.foldl (runJob client) (places.foldl (settle client) m)

/-- Whether a unit has been collected. -/
def isCollected (j : Job) : Bool :=
  match j.phase with
  | .collected => true
  | _ => false

/-- The places of the units that have not been collected. -/
def uncollected (m : Machine) : List Nat :=
  (List.range m.jobs.size).filter fun i => ((m.jobs[i]?).map isCollected).getD true = false

/-- Collects all units that have not been collected, in the order of submission. A panic ends the
collection, and the units behind it are not asked for again. -/
def gather (m : Machine) : Machine :=
  let m := m.uncollected.foldl (fun m i => ((m.collect? i).map (·.1)).getD m)
    { m with results := #[], panicked := none }
  { m with jobs := m.jobs.map fun j => { j with phase := .collected } }

end Machine

/-- The failure of a run in which the unit at place `i` panicked. -/
def panicFailure (i : Nat) (message : String) : Failure :=
  ⟨.worker, "worker panicked: task " ++ Decimal.text (i + 1) ++ " panicked with message "
    ++ Text.quoted message⟩

end BenchRig.Pool
