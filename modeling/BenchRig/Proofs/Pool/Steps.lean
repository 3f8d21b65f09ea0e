import BenchRig.Proofs.Pool.Moves
import Mathlib.Logic.Relation

/-!
# Runs as steps

Waiting for the units of a pool is a sequence of steps, whatever course it takes: a unit acts,
something is done with memory, a result is collected, or a panic is. Submitting is a sequence of
submissions, of units that act and of uses of memory. What is kept by each of these is kept by a
whole run.
-/

namespace BenchRig.Pool

open Memory (Action Sampler)

namespace Machine

/-- A machine `m'` in which the unit at place `i`, which had ended in the way `e`, has been
collected, and nothing else has changed. -/
structure Collected (m m' : Machine) (i : Nat) (lane : Lane) (e : Ending) : Prop where
  calm : m.panicked = none
  job : m.jobs[i]? = some ⟨lane, .ended e⟩
  jobs : m'.jobs = m.jobs.setIfInBounds i ⟨lane, .collected⟩
  world : m'.world = m.world
  free : ∀ ℓ, m'.free ℓ = m.free ℓ
  results : m'.results.toList = m.results.toList ++ e.toOption.toList
  panicked : m'.panicked = match e with | .ok _ => none | .error message => some (i, message)

theorem collected_of_collect? {m m' : Machine} {i : Nat} {e : Ending}
    (h : m.collect? i = some (m', e)) : ∃ lane, Collected m m' i lane e := by
  simp only [collect?] at h
  split_ifs at h with hcalm
  have hnone : m.panicked = none := by simpa using hcalm
  split at h
  · rename_i lane r hjob
    obtain ⟨rfl, rfl⟩ := Prod.mk.inj (Option.some.inj h)
    exact ⟨lane, hnone, hjob, rfl, rfl, fun ℓ => by cases ℓ <;> rfl, by simp [Except.toOption],
      hnone⟩
  · rename_i lane message hjob
    obtain ⟨rfl, rfl⟩ := Prod.mk.inj (Option.some.inj h)
    exact ⟨lane, hnone, hjob, rfl, rfl, fun ℓ => by cases ℓ <;> rfl, by simp [Except.toOption],
      rfl⟩
  · cases h

@[simp] theorem tell_jobs (m : Machine) (e : Log.DispatchEvent) : (m.tell e).jobs = m.jobs := rfl

@[simp] theorem tell_results (m : Machine) (e : Log.DispatchEvent) :
    (m.tell e).results = m.results := rfl

@[simp] theorem tell_panicked (m : Machine) (e : Log.DispatchEvent) :
    (m.tell e).panicked = m.panicked := rfl

@[simp] theorem tell_free (m : Machine) (e : Log.DispatchEvent) (ℓ : Lane) :
    (m.tell e).free ℓ = m.free ℓ := by
  cases ℓ <;> rfl

end Machine

open Machine (Moved Collected)

/-- What can happen in a pool without the dispatcher. -/
inductive Stirred (client : Client) (m : Machine) : Machine → Prop where
  /-- A unit acts. -/
  | act {m' : Machine} {i : Nat} {lane : Lane} {p p' : Phase} (h : Moved client m m' i lane p p') :
      Stirred client m m'
  /-- Something is done with a block of memory. -/
  | use (a : Action) : Stirred client m (m.use a)

/-- One step of a pool whose `n` units are waited for. -/
inductive Step (client : Client) (n : Nat) : Watched → Watched → Prop where
  /-- A unit acts. -/
  | act {m m' : Machine} {s : Option Sampler} {i : Nat} {lane : Lane} {p p' : Phase}
      (h : Moved client m m' i lane p p') : Step client n (m, s) (m', s)
  /-- Something is done with a block of memory. -/
  | use {m : Machine} {s : Option Sampler} (a : Action) : Step client n (m, s) (m.use a, s)
  /-- A result is collected. -/
  | collect {m m' : Machine} {s : Option Sampler} {i : Nat} {lane : Lane} {r : WorkerResult}
      (h : Collected m m' i lane (.ok r)) :
      Step client n (m, s)
        (m'.tell (.workerCompleted r.id m'.results.size n),
          s.map fun s => s.observe m'.world.heap.counters)
  /-- A panic is collected. -/
  | stop {m m' : Machine} {s : Option Sampler} {i : Nat} {lane : Lane} {message : String}
      (h : Collected m m' i lane (.error message)) : Step client n (m, s) (m', s)

/-- Any number of steps. -/
abbrev Steps (client : Client) (n : Nat) : Watched → Watched → Prop :=
  Relation.ReflTransGen (Step client n)

section Steps

variable {client : Client} {n : Nat}

/-- What each step keeps, any number of steps keeps. -/
theorem Steps.invariant {P : Watched → Prop} (hstep : ∀ {w w'}, Step client n w w' → P w → P w')
    {w w' : Watched} (h : Steps client n w w') (hw : P w) : P w' := by
  induction h with
  | refl => exact hw
  | tail _ hlast ih => exact hstep hlast ih

theorem Steps.foldl {α : Type} {f : Watched → α → Watched}
    (h : ∀ w a, Steps client n w (f w a)) (w : Watched) (as : List α) :
    Steps client n w (as.foldl f w) := by
  induction as generalizing w with
  | nil => exact .refl
  | cons a as ih => exact (h w a).trans (ih (f w a))

/-- Any number of moves and uses of memory. -/
abbrev Plays (client : Client) : Machine → Machine → Prop :=
  Relation.ReflTransGen (Stirred client)

/-- What each move and each use of memory keeps, any number of them keeps. -/
theorem Plays.invariant {P : Machine → Prop}
    (hstir : ∀ {m m'}, Stirred client m m' → P m → P m')
    {m m' : Machine} (h : Plays client m m') (hm : P m) : P m' := by
  induction h with
  | refl => exact hm
  | tail _ hlast ih => exact hstir hlast ih

/-- Moves and uses of memory are steps, whatever is watched. -/
theorem Plays.steps {m m' : Machine} (h : Plays client m m') (s : Option Sampler) :
    Steps client n (m, s) (m', s) := by
  induction h with
  | refl => exact .refl
  | tail _ hlast ih =>
    cases hlast with
    | act hmove => exact ih.tail (.act hmove)
    | use a => exact ih.tail (.use a)

theorem Plays.foldl {α : Type} {f : Machine → α → Machine} (h : ∀ m a, Plays client m (f m a))
    (m : Machine) (as : List α) : Plays client m (as.foldl f m) := by
  induction as generalizing m with
  | nil => exact .refl
  | cons a as ih => exact (h m a).trans (ih (f m a))

variable (client)

theorem plays_play (m : Machine) (v : Move) : Plays client m (m.play client v) := by
  unfold Machine.play
  cases hgo : m.go client v with
  | none => exact .refl
  | some m' =>
    obtain ⟨i, lane, p, p', hmove⟩ := Machine.moved_of_go hgo
    exact .single (.act hmove)

theorem plays_stir (m : Machine) (e : Event) : Plays client m (m.stir client e) := by
  cases e with
  | submit lane t => exact .refl
  | move v => exact plays_play client m v
  | memory a => exact .single (.use a)
  | collect i => exact .refl

theorem plays_complete (i : Nat) (t : Task) (m : Machine) :
    Plays client m (m.complete client i t) := by
  induction t generalizing m with
  | done r => exact plays_play client m _
  | panic message => exact plays_play client m _
  | tell e next ih => exact (plays_play client m _).trans (ih _)
  | call url next ih =>
    simp only [Machine.complete]
    have hcall := (plays_play client m (.advance i)).trans
      (plays_play client (m.play client (.advance i)) (.answer i))
    split
    · exact hcall.trans (ih _ _)
    · exact hcall

theorem plays_settle (m : Machine) (i : Nat) : Plays client m (m.settle client i) := by
  unfold Machine.settle
  split
  · exact plays_complete client i _ m
  · split
    · exact (plays_play client m _).trans (plays_complete client i _ _)
    · exact plays_play client m _
  · exact .refl

theorem plays_runJob (m : Machine) (i : Nat) : Plays client m (m.runJob client i) :=
  (plays_play client m _).trans (plays_settle client _ i)

theorem plays_runAll (m : Machine) : Plays client m (m.runAll client) :=
  (Plays.foldl (plays_settle client) m _).trans (Plays.foldl (plays_runJob client) _ _)

theorem steps_collectOne (w : Watched) (i : Nat) : Steps client n w (collectOne n w i) := by
  unfold collectOne
  split
  · rename_i m r h
    obtain ⟨lane, hc⟩ := Machine.collected_of_collect? h
    exact .single (.collect hc)
  · rename_i m message h
    obtain ⟨lane, hc⟩ := Machine.collected_of_collect? h
    exact .single (.stop hc)
  · exact .refl

theorem steps_happen (w : Watched) (e : Event) : Steps client n w (happen client n w e) := by
  cases e with
  | submit lane t => exact .refl
  | move v => exact (plays_play client w.1 v).steps w.2
  | memory a => exact .single (.use a)
  | collect i => exact steps_collectOne client w i

/-- Waiting for units is a sequence of steps. -/
theorem steps_await (course : Course) (w : Watched) :
    Steps client n w (await client course n w) :=
  (Steps.foldl (steps_happen client) w course.late).trans
    (((plays_runAll client _).steps _).trans (Steps.foldl (steps_collectOne client) _ _))

/-- What submitting a task and what happens in between keep, submitting tasks keeps; `P` may depend
on the tasks that have been submitted. -/
theorem submitAll_invariant (lane : Lane) {P : List Task → Machine → Prop}
    (hsubmit : ∀ {ts m} t, P ts m → P (ts ++ [t]) (m.submit lane t))
    (hstir : ∀ {ts m m'}, Stirred client m m' → P ts m → P ts m')
    (early : Nat → List Event) (tasks : List Task) {m : Machine} (h : P [] m) :
    P tasks (m.submitAll client early lane tasks) := by
  have hplays : ∀ (es : List Event) {ts m}, P ts m → P ts (es.foldl (Machine.stir client) m) :=
    fun es ts m h => (Plays.foldl (plays_stir client) m es).invariant hstir h
  have hall : ∀ (rest ts : List Task) (m : Machine), P ts m →
      P (ts ++ rest) (m.submitAll client early lane rest) := by
    intro rest
    induction rest with
    | nil => intro ts m hm; simpa [Machine.submitAll] using hm
    | cons t rest ih =>
      intro ts m hm
      rw [List.append_cons]
      exact ih _ _ (hplays _ (hsubmit t hm))
  exact hall tasks [] m h

/-- What submitting a task and what happens in between keep, opening a pool keeps. -/
theorem opening_invariant (lane : Lane) {P : List Task → Machine → Prop}
    (hsubmit : ∀ {ts m} t, P ts m → P (ts ++ [t]) (m.submit lane t))
    (hstir : ∀ {ts m m'}, Stirred client m m' → P ts m → P ts m')
    (course : Course) (tasks : List Task) {m : Machine} (h : P [] m) :
    P tasks (((course.early 0).foldl (Machine.stir client) m).submitAll client course.early lane
      tasks) :=
  submitAll_invariant client lane (P := P) hsubmit hstir course.early tasks
    ((Plays.foldl (plays_stir client) m _).invariant (P := P []) hstir h)

/-- Neither a move nor a use of memory adds or removes a unit. -/
theorem Stirred.size {m m' : Machine} (h : Stirred client m m') : m'.jobs.size = m.jobs.size := by
  cases h with
  | act h => simp [h.jobs]
  | use a => rfl

/-- Submitting adds one unit for each task. -/
theorem size_submitAll (early : Nat → List Event) (lane : Lane) (tasks : List Task) (m : Machine) :
    (m.submitAll client early lane tasks).jobs.size = m.jobs.size + tasks.length := by
  refine submitAll_invariant client lane
    (P := fun ts m' => m'.jobs.size = m.jobs.size + ts.length) (fun t h => ?_)
    (fun hstir h => hstir.size.trans h) early tasks rfl
  simp [Machine.submit, h, Nat.add_assoc]

end Steps

end BenchRig.Pool
