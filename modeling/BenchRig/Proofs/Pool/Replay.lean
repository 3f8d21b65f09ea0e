import BenchRig.Proofs.Pool.Building
import BenchRig.Proofs.Pool.Steps
import Mathlib.Tactic.Set

/-!
# Runs as events

Everything that happens in a run, in order: what is submitted, what units do, what is done with
memory, and what is collected. Replaying these events one after another ends where the run ends.
-/

namespace BenchRig.Pool

open Memory (Sampler)

namespace Machine

/-- The moves by which an active unit goes on until it ends. -/
def completeMoves (client : Client) (i : Nat) : Task → Machine → List Move
  | .done _, _ => [.advance i]
  | .panic _, _ => [.advance i]
  | .tell _ next, m => .advance i :: completeMoves client i next (m.play client (.advance i))
  | .call _ next, m =>
    .advance i :: .answer i ::
      match client m.world.calls.size with
      | .reply r =>
        completeMoves client i (next r) ((m.play client (.advance i)).play client (.answer i))
      | .panic _ => []

/-- The moves by which a unit goes on until it ends, if it has started. -/
def settleMoves (client : Client) (m : Machine) (i : Nat) : List Move :=
  match m.jobs[i]? with
  | some ⟨_, .active t⟩ => completeMoves client i t m
  | some ⟨_, .calling k next⟩ =>
    .answer i ::
      match client k with
      | .reply r => completeMoves client i (next r) (m.play client (.answer i))
      | .panic _ => []
  | _ => []

/-- The moves by which a unit starts, if it waits, and goes on until it ends. -/
def runJobMoves (client : Client) (m : Machine) (i : Nat) : List Move :=
  .launch i :: settleMoves client (m.play client (.launch i)) i

/-- The moves of units, one unit after another. -/
def movesInTurn (client : Client) (moves : Machine → Nat → List Move) :
    Machine → List Nat → List Move
  | _, [] => []
  | m, i :: places =>
    moves m i ++ movesInTurn client moves ((moves m i).foldl (play client) m) places

/-- The moves by which all units go on until they end. -/
def runAllMoves (client : Client) (m : Machine) : List Move :=
  let places := List.range m.jobs.size
  movesInTurn client (settleMoves client) m places ++
    movesInTurn client (runJobMoves client) (places.foldl (settle client) m) places

end Machine

/-- Whether an event is not in the hands of the dispatcher. -/
def Event.isFree : Event → Bool
  | .move _ | .memory _ => true
  | .submit _ _ | .collect _ => false

/-- Tasks as they are submitted, each followed by what happens before the next one is; `k` of them
have been submitted before. -/
def submissions (early : Nat → List Event) (lane : Lane) : (k : Nat) → List Task → List Event
  | _, [] => []
  | k, t :: tasks =>
    .submit lane t ::
      ((early (k + 1)).filter Event.isFree ++ submissions early lane (k + 1) tasks)

/-- What happens while the tasks of a run are submitted. -/
def openEvents (course : Course) (lane : Lane) (tasks : List Task) : List Event :=
  (course.early 0).filter Event.isFree ++ submissions course.early lane 0 tasks

/-- What a watched pool comes to by an event; one that is not possible changes nothing. -/
def occur (client : Client) (n : Nat) (w : Watched) : Event → Watched
  | .submit lane t => (w.1.submit lane t, w.2)
  | .move v => (w.1.play client v, w.2)
  | .memory a => (w.1.use a, w.2)
  | .collect i => collectOne n w i

/-- Whether an event is no submission. -/
def Event.isLate : Event → Bool
  | .submit _ _ => false
  | _ => true

/-- What happens in a pool whose `n` units are waited for. -/
def awaitEvents (client : Client) (course : Course) (n : Nat) (w : Watched) : List Event :=
  let late := course.late.filter Event.isLate
  late ++ (((late.foldl (occur client n) w).1.runAllMoves client).map .move ++
    (List.range n).map .collect)

/-- The machine of a run whose pool has just been created. -/
def created (config : Config) (watch : Bool) (world : World) : Machine :=
  (Machine.start config (startWatch watch world).1).tell
    (.poolCreated config.kind config.capacity.toNat)

/-- The machine of a run whose tasks have just been submitted. -/
def opened (client : Client) (config : Config) (lane : Lane) (tasks : List Task) (watch : Bool)
    (course : Course) (world : World) : Machine :=
  let early := (course.early 0).foldl (Machine.stir client) (created config watch world)
  (early.submitAll client course.early lane tasks).tell
    (.submitted tasks.length course.timings.submit)

/-! ## Replaying -/

section Replay

variable (client : Client)

theorem foldl_completeMoves (i : Nat) (t : Task) (m : Machine) :
    (Machine.completeMoves client i t m).foldl (Machine.play client) m =
      m.complete client i t := by
  induction t generalizing m with
  | done r => rfl
  | panic message => rfl
  | tell e next ih => exact ih _
  | call url next ih =>
    simp only [Machine.completeMoves, Machine.complete, List.foldl_cons]
    cases client m.world.calls.size with
    | reply r => exact ih r _
    | panic message => rfl

theorem foldl_settleMoves (m : Machine) (i : Nat) :
    (m.settleMoves client i).foldl (Machine.play client) m = m.settle client i := by
  rcases hjob : m.jobs[i]? with _ | ⟨lane, p⟩
  · simp [Machine.settleMoves, Machine.settle, hjob]
  · cases p with
    | active t =>
      simp only [Machine.settleMoves, Machine.settle, hjob]
      exact foldl_completeMoves client i t m
    | calling k next =>
      simp only [Machine.settleMoves, Machine.settle, hjob, List.foldl_cons]
      cases client k with
      | reply r => exact foldl_completeMoves client i (next r) _
      | panic message => rfl
    | waiting t => simp [Machine.settleMoves, Machine.settle, hjob]
    | ended e => simp [Machine.settleMoves, Machine.settle, hjob]
    | collected => simp [Machine.settleMoves, Machine.settle, hjob]

theorem foldl_runJobMoves (m : Machine) (i : Nat) :
    (m.runJobMoves client i).foldl (Machine.play client) m = m.runJob client i :=
  foldl_settleMoves client _ i

theorem foldl_movesInTurn {moves : Machine → Nat → List Move} {f : Machine → Nat → Machine}
    (h : ∀ m i, (moves m i).foldl (Machine.play client) m = f m i) (m : Machine)
    (places : List Nat) :
    (Machine.movesInTurn client moves m places).foldl (Machine.play client) m =
      places.foldl f m := by
  induction places generalizing m with
  | nil => rfl
  | cons i places ih =>
    have hhead := h m i
    have htail := ih ((moves m i).foldl (Machine.play client) m)
    rw [Machine.movesInTurn, List.foldl_append, htail, hhead]
    rfl

theorem foldl_runAllMoves (m : Machine) :
    (m.runAllMoves client).foldl (Machine.play client) m = m.runAll client := by
  have hstarted := foldl_movesInTurn client (foldl_settleMoves client) m (List.range m.jobs.size)
  have hwaiting := foldl_movesInTurn client (foldl_runJobMoves client)
    ((List.range m.jobs.size).foldl (Machine.settle client) m) (List.range m.jobs.size)
  rw [Machine.runAllMoves, List.foldl_append, hstarted, hwaiting]
  rfl

theorem foldl_moves (n : Nat) (m : Machine) (s : Option Sampler) (vs : List Move) :
    (vs.map Event.move).foldl (occur client n) (m, s) =
      (vs.foldl (Machine.play client) m, s) := by
  induction vs generalizing m with
  | nil => rfl
  | cons v vs ih => exact ih _

theorem foldl_free (n : Nat) (m : Machine) (s : Option Sampler) (es : List Event) :
    (es.filter Event.isFree).foldl (occur client n) (m, s) =
      (es.foldl (Machine.stir client) m, s) := by
  induction es generalizing m with
  | nil => rfl
  | cons e es ih =>
    cases e with
    | submit lane t => exact ih m
    | move v => exact ih _
    | memory a => exact ih _
    | collect i => exact ih m

theorem size_foldl_stir (m : Machine) (es : List Event) :
    (es.foldl (Machine.stir client) m).jobs.size = m.jobs.size :=
  (Plays.foldl (plays_stir client) m es).invariant (P := fun m' => m'.jobs.size = m.jobs.size)
    (fun hstir h => hstir.size.trans h) rfl

/-- Submitting tasks is the sequence of these events. -/
theorem foldl_submissions (n : Nat) (early : Nat → List Event) (lane : Lane) (tasks : List Task)
    (m : Machine) (s : Option Sampler) :
    (submissions early lane m.jobs.size tasks).foldl (occur client n) (m, s) =
      (m.submitAll client early lane tasks, s) := by
  induction tasks generalizing m with
  | nil => rfl
  | cons t tasks ih =>
    set m₁ := m.submit lane t with hm₁
    set m₂ := (early (m.jobs.size + 1)).foldl (Machine.stir client) m₁ with hm₂
    have hsize₁ : m₁.jobs.size = m.jobs.size + 1 := by simp [hm₁, Machine.submit]
    have hsize₂ : m₂.jobs.size = m.jobs.size + 1 := (size_foldl_stir client m₁ _).trans hsize₁
    have hfree := foldl_free client n m₁ s (early (m.jobs.size + 1))
    have hrest := ih m₂
    rw [hsize₂] at hrest
    rw [submissions, List.foldl_cons, List.foldl_append]
    have hsubmit : occur client n (m, s) (.submit lane t) = (m₁, s) := rfl
    rw [hsubmit, hfree, hrest]
    simp only [Machine.submitAll, List.foldl_cons]
    rw [← hm₁, hsize₁, ← hm₂]

/-- Opening a pool that has been created is the sequence of these events. -/
theorem foldl_openEvents (n : Nat) (course : Course) (lane : Lane) (tasks : List Task)
    {m : Machine} (hm : m.jobs.size = 0) (s : Option Sampler) :
    (openEvents course lane tasks).foldl (occur client n) (m, s) =
      (((course.early 0).foldl (Machine.stir client) m).submitAll client course.early lane tasks,
        s) := by
  rw [openEvents, List.foldl_append, foldl_free]
  have hsubmit := foldl_submissions client n course.early lane tasks
    ((course.early 0).foldl (Machine.stir client) m) s
  rwa [size_foldl_stir, hm] at hsubmit

theorem size_opened (config : Config) (lane : Lane) (tasks : List Task) (watch : Bool)
    (course : Course) (world : World) :
    (opened client config lane tasks watch course world).jobs.size = tasks.length := by
  rw [opened, Machine.tell_jobs, size_submitAll, size_foldl_stir]
  exact Nat.zero_add _

/-- A pool that can be built is opened. -/
theorem openPool_eq {config : Config} (hbuild : config.Buildable) (lane : Lane)
    (tasks : List Task) (watch : Bool) (course : Course) (world : World) :
    openPool client config lane tasks course (startWatch watch world).1 .started =
      .ok (opened client config lane tasks watch course world) := by
  have hsize := size_opened client config lane tasks watch course world
  rw [opened, Machine.tell_jobs] at hsize
  rw [opened, ← hsize, openPool, hbuild.build]
  rfl

theorem foldl_late (n : Nat) (w : Watched) (es : List Event) :
    (es.filter Event.isLate).foldl (occur client n) w = es.foldl (happen client n) w := by
  induction es generalizing w with
  | nil => rfl
  | cons e es ih =>
    cases e with
    | submit lane t => exact ih w
    | move v => exact ih _
    | memory a => exact ih _
    | collect i => exact ih _

theorem foldl_collects (n : Nat) (w : Watched) (places : List Nat) :
    (places.map Event.collect).foldl (occur client n) w = places.foldl (collectOne n) w := by
  induction places generalizing w with
  | nil => rfl
  | cons i places ih => exact ih _

/-- Waiting is the sequence of these events. -/
theorem foldl_awaitEvents (course : Course) (n : Nat) (w : Watched) :
    (awaitEvents client course n w).foldl (occur client n) w = await client course n w := by
  have hlate := foldl_late client n w course.late
  obtain ⟨⟨m, s⟩, hw⟩ : ∃ w', course.late.foldl (happen client n) w = w' := ⟨_, rfl⟩
  rw [hw] at hlate
  have hmoves := foldl_moves client n m s (m.runAllMoves client)
  rw [foldl_runAllMoves] at hmoves
  rw [awaitEvents, List.foldl_append, List.foldl_append, hlate, hmoves, foldl_collects, await, hw]

/-- Nothing stops a sampler, and nothing starts one. -/
theorem isSome_occur (n : Nat) (w : Watched) (e : Event) :
    (occur client n w e).2.isSome = w.2.isSome := by
  cases e with
  | submit lane t => rfl
  | move v => rfl
  | memory a => rfl
  | collect i =>
    simp only [occur, collectOne]
    split
    · exact Option.isSome_map
    · rfl
    · rfl

theorem isSome_await (course : Course) (n : Nat) (w : Watched) :
    (await client course n w).2.isSome = w.2.isSome := by
  rw [← foldl_awaitEvents]
  induction awaitEvents client course n w generalizing w with
  | nil => rfl
  | cons e es ih => rw [List.foldl_cons, ih, isSome_occur]

end Replay

end BenchRig.Pool
