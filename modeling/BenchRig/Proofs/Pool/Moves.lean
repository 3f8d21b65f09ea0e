import BenchRig.Pool.Dispatch
import Mathlib.Tactic.SplitIfs

/-!
# What can happen in a pool

A move changes one unit, the permits of its lane and what units share, and nothing else; what is done
with memory changes the memory alone; collecting changes one unit that has ended. Everything that is
kept over a run is derived from these facts.
-/

namespace BenchRig.Pool

open Memory (Action)

/-- What a unit at place `i` can do by itself: the phase it is in, the phase it comes to, and what
that does to the world. -/
inductive Acts (client : Client) (i : Nat) (w : World) : Phase → Phase → World → Prop where
  /-- It starts. -/
  | launch (t : Task) : Acts client i w (.waiting t) (.active t) w
  /-- It returns. -/
  | done (r : WorkerResult) : Acts client i w (.active (.done r)) (.ended (.ok r)) w
  /-- It panics. -/
  | panic (message : String) :
      Acts client i w (.active (.panic message)) (.ended (.error message)) w
  /-- It makes a call. -/
  | call (url : String) (next : Reply → Task) :
      Acts client i w (.active (.call url next)) (.calling w.calls.size next)
        (w.startCall ⟨i, url⟩)
  /-- It tells the log. -/
  | tell (e : Log.DispatchEvent) (next : Task) :
      Acts client i w (.active (.tell e next)) (.active next) (w.tell (.worker i) e)
  /-- Its call is answered. -/
  | reply {k : Nat} {r : Reply} (next : Reply → Task) (h : client k = .reply r) :
      Acts client i w (.calling k next) (.active (next r)) w
  /-- Its call panics, and so does it. -/
  | lost {k : Nat} {message : String} (next : Reply → Task) (h : client k = .panic message) :
      Acts client i w (.calling k next) (.ended (.error message)) w

/-- Whether a unit holds a permit of its lane. -/
def Phase.inFlight : Phase → Bool
  | active _ | calling _ _ => true
  | _ => false

/-- Whether a unit waits for its permit. -/
def Phase.waits : Phase → Bool
  | waiting _ => true
  | _ => false

/-- The place of the unit that makes a move. -/
def Move.place : Move → Nat
  | launch i | advance i | answer i => i

namespace World

variable (w : World) (a : Action)

@[simp] theorem use_calls : (w.use a).calls = w.calls := by
  unfold use
  split_ifs <;> rfl

@[simp] theorem use_told : (w.use a).told = w.told := by
  unfold use
  split_ifs <;> rfl

@[simp] theorem use_tracked : (w.use a).tracked = w.tracked := by
  unfold use
  split_ifs <;> rfl

@[simp] theorem track_calls (tracked : Bool) : (w.track tracked).calls = w.calls := by
  cases tracked <;> rfl

@[simp] theorem track_told (tracked : Bool) : (w.track tracked).told = w.told := by
  cases tracked <;> rfl

end World

namespace Machine

/-- How many units of a lane hold a permit. -/
def inFlight (m : Machine) (lane : Lane) : Nat :=
  m.jobs.countP fun j => decide (j.lane = lane) && j.phase.inFlight

/-! ## Fields -/

@[simp] theorem move_jobs (m : Machine) (i : Nat) (lane : Lane) (p : Phase) :
    (m.move i lane p).jobs = m.jobs.setIfInBounds i ⟨lane, p⟩ := rfl

@[simp] theorem move_results (m : Machine) (i : Nat) (lane : Lane) (p : Phase) :
    (m.move i lane p).results = m.results := rfl

@[simp] theorem move_panicked (m : Machine) (i : Nat) (lane : Lane) (p : Phase) :
    (m.move i lane p).panicked = m.panicked := rfl

@[simp] theorem move_world (m : Machine) (i : Nat) (lane : Lane) (p : Phase) :
    (m.move i lane p).world = m.world := rfl

@[simp] theorem move_free (m : Machine) (i : Nat) (lane : Lane) (p : Phase) (ℓ : Lane) :
    (m.move i lane p).free ℓ = m.free ℓ := by
  cases ℓ <;> rfl

@[simp] theorem free_world (m : Machine) (w : World) (ℓ : Lane) :
    Machine.free { m with world := w } ℓ = m.free ℓ := by
  cases ℓ <;> rfl

@[simp] theorem take_jobs (m : Machine) (lane : Lane) : (m.take lane).jobs = m.jobs := by
  cases lane <;> rfl

@[simp] theorem take_results (m : Machine) (lane : Lane) :
    (m.take lane).results = m.results := by
  cases lane <;> rfl

@[simp] theorem take_panicked (m : Machine) (lane : Lane) :
    (m.take lane).panicked = m.panicked := by
  cases lane <;> rfl

@[simp] theorem take_world (m : Machine) (lane : Lane) : (m.take lane).world = m.world := by
  cases lane <;> rfl

theorem take_free (m : Machine) (lane ℓ : Lane) :
    (m.take lane).free ℓ = m.free ℓ - if lane = ℓ then 1 else 0 := by
  cases lane <;> cases ℓ <;> rfl

@[simp] theorem give_jobs (m : Machine) (lane : Lane) : (m.give lane).jobs = m.jobs := by
  cases lane <;> rfl

@[simp] theorem give_results (m : Machine) (lane : Lane) :
    (m.give lane).results = m.results := by
  cases lane <;> rfl

@[simp] theorem give_panicked (m : Machine) (lane : Lane) :
    (m.give lane).panicked = m.panicked := by
  cases lane <;> rfl

@[simp] theorem give_world (m : Machine) (lane : Lane) : (m.give lane).world = m.world := by
  cases lane <;> rfl

theorem give_free (m : Machine) (lane ℓ : Lane) :
    (m.give lane).free ℓ = m.free ℓ + if lane = ℓ then 1 else 0 := by
  cases lane <;> cases ℓ <;> rfl

@[simp] theorem use_jobs (m : Machine) (a : Action) : (m.use a).jobs = m.jobs := rfl

@[simp] theorem use_results (m : Machine) (a : Action) : (m.use a).results = m.results := rfl

@[simp] theorem use_panicked (m : Machine) (a : Action) : (m.use a).panicked = m.panicked := rfl

@[simp] theorem use_free (m : Machine) (a : Action) (ℓ : Lane) : (m.use a).free ℓ = m.free ℓ := by
  cases ℓ <;> rfl

/-! ## Places -/

section Places

variable {m m' : Machine} {i : Nat} {job : Job}

/-- A unit has one lane and one phase. -/
theorem job_inj {lane lane' : Lane} {p p' : Phase} (h : m.jobs[i]? = some ⟨lane, p⟩)
    (h' : m.jobs[i]? = some ⟨lane', p'⟩) : lane = lane' ∧ p = p' :=
  Job.mk.inj (Option.some.inj (h.symm.trans h'))

/-- The job at place `i` after the array of jobs has been set there. -/
theorem job_of_set {old : Job} (h : m.jobs[i]? = some old)
    (hjobs : m'.jobs = m.jobs.setIfInBounds i job) : m'.jobs[i]? = some job := by
  rw [hjobs, Array.getElem?_setIfInBounds_self_of_lt (Array.getElem?_eq_some_iff.mp h).1]

/-- The jobs at other places. -/
theorem job_of_set_ne (hjobs : m'.jobs = m.jobs.setIfInBounds i job) {j : Nat} (hj : j ≠ i) :
    m'.jobs[j]? = m.jobs[j]? := by
  rw [hjobs, Array.getElem?_setIfInBounds_ne (Ne.symm hj)]

end Places

/-! ## Moves -/

/-- How many permits of a lane `ℓ` a unit of lane `lane` holds in a phase. -/
def held (lane ℓ : Lane) (p : Phase) : Nat := if lane = ℓ ∧ p.inFlight then 1 else 0

/-- A machine `m'` in which the unit at place `i` has acted, and nothing else has changed. -/
structure Moved (client : Client) (m m' : Machine) (i : Nat) (lane : Lane) (p p' : Phase) :
    Prop where
  job : m.jobs[i]? = some ⟨lane, p⟩
  acts : Acts client i m.world p p' m'.world
  jobs : m'.jobs = m.jobs.setIfInBounds i ⟨lane, p'⟩
  results : m'.results = m.results
  panicked : m'.panicked = m.panicked
  free : ∀ ℓ, m'.free ℓ + held lane ℓ p' = m.free ℓ + held lane ℓ p

/-- Everything that a move can do. Only a unit that gets its permit has waited before. -/
theorem moved_at_of_go {client : Client} {m m' : Machine} {v : Move}
    (h : m.go client v = some m') :
    ∃ lane p p', Moved client m m' v.place lane p p' ∧ p'.waits = false ∧
      (p.waits = true ↔ v = .launch v.place) := by
  cases v with
  | launch i =>
    simp only [go] at h
    split at h
    · rename_i lane t hjob
      split_ifs at h with hfree
      obtain rfl := Option.some.inj h
      have hmoved : Moved client m ((m.take lane).move i lane (.active t)) i lane (.waiting t)
          (.active t) := by
        refine ⟨hjob, by simpa using .launch t, by simp, by simp, by simp, fun ℓ => ?_⟩
        simp only [move_free, take_free, held, Phase.inFlight]
        split_ifs <;> simp_all
        omega
      exact ⟨lane, _, _, hmoved, rfl, by simp [Phase.waits, Move.place]⟩
    · cases h
  | advance i =>
    simp only [go] at h
    split at h
    · rename_i lane r hjob
      obtain rfl := Option.some.inj h
      have hmoved : Moved client m (m.finish i lane (.ok r)) i lane (.active (.done r))
          (.ended (.ok r)) := by
        refine ⟨hjob, by simpa [finish] using .done r, by simp [finish], by simp [finish],
          by simp [finish], fun ℓ => ?_⟩
        simp [finish, give_free, held, Phase.inFlight]
      exact ⟨lane, _, _, hmoved, rfl, by simp [Phase.waits]⟩
    · rename_i lane message hjob
      obtain rfl := Option.some.inj h
      have hmoved : Moved client m (m.finish i lane (.error message)) i lane
          (.active (.panic message)) (.ended (.error message)) := by
        refine ⟨hjob, by simpa [finish] using .panic message, by simp [finish], by simp [finish],
          by simp [finish], fun ℓ => ?_⟩
        simp [finish, give_free, held, Phase.inFlight]
      exact ⟨lane, _, _, hmoved, rfl, by simp [Phase.waits]⟩
    · rename_i lane url next hjob
      obtain rfl := Option.some.inj h
      exact ⟨lane, _, _, ⟨hjob, .call url next, rfl, rfl, rfl, fun ℓ => by cases ℓ <;> rfl⟩, rfl,
        by simp [Phase.waits]⟩
    · rename_i lane e next hjob
      obtain rfl := Option.some.inj h
      exact ⟨lane, _, _, ⟨hjob, .tell e next, rfl, rfl, rfl, fun ℓ => by cases ℓ <;> rfl⟩, rfl,
        by simp [Phase.waits]⟩
    · cases h
  | answer i =>
    simp only [go] at h
    split at h
    · rename_i lane k next hjob
      split at h
      · rename_i r hr
        obtain rfl := Option.some.inj h
        exact ⟨lane, _, _, ⟨hjob, .reply next hr, rfl, rfl, rfl, fun ℓ => by cases ℓ <;> rfl⟩,
          rfl, by simp [Phase.waits]⟩
      · rename_i message hm
        obtain rfl := Option.some.inj h
        have hmoved : Moved client m (m.finish i lane (.error message)) i lane (.calling k next)
            (.ended (.error message)) := by
          refine ⟨hjob, by simpa [finish] using .lost next hm, by simp [finish], by simp [finish],
            by simp [finish], fun ℓ => ?_⟩
          simp [finish, give_free, held, Phase.inFlight]
        exact ⟨lane, _, _, hmoved, rfl, by simp [Phase.waits]⟩
    · cases h

theorem moved_of_go {client : Client} {m m' : Machine} {v : Move} (h : m.go client v = some m') :
    ∃ i lane p p', Moved client m m' i lane p p' := by
  obtain ⟨lane, p, p', hmoved, -⟩ := moved_at_of_go h
  exact ⟨v.place, lane, p, p', hmoved⟩

end Machine

end BenchRig.Pool
