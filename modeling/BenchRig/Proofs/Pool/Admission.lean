import BenchRig.Proofs.Pool.Building
import BenchRig.Proofs.Pool.Progress

/-!
# Admission

Tasks that are submitted to a pool wait until they are admitted. A task holds its permit from its
admission until it returns or panics, so the tasks that are running and the free permits always add
up to the capacity of the pool, and a pool with an unfinished task can always go on.
-/

namespace BenchRig.Pool

open Machine (Moved Collected isOver)

/-- Whether an event submits nothing that runs on a thread of its own. -/
def Event.isAsync : Event → Bool
  | .submit lane _ => lane = .permit
  | _ => true

/-- Whether an event starts the unit at place `i`. -/
def Event.starts (i : Nat) : Event → Bool
  | .move v => v = .launch i
  | _ => false

/-- How often events start the unit at place `i`. -/
def starts (es : List Event) (i : Nat) : Nat := es.countP (Event.starts i)

/-- How many units have been admitted and have not ended. -/
def Machine.running (m : Machine) : Nat := m.jobs.countP fun j => !j.phase.waits && !isOver j

section Admission

variable {client : Client} {m m' : Machine} {config : Config} {world : World}

/-! ## Steps -/

/-- Everything that can happen in a pool. -/
theorem step_cases {e : Event} (h : m.step client e = some m') :
    (∃ lane t, e = .submit lane t ∧ m' = m.submit lane t) ∨
      (∃ v, e = .move v ∧ m.go client v = some m') ∨ (∃ a, e = .memory a ∧ m' = m.use a) ∨
      ∃ i lane ending, e = .collect i ∧ Collected m m' i lane ending := by
  cases e with
  | submit lane t => exact .inl ⟨lane, t, rfl, (Option.some.inj h).symm⟩
  | move v => exact .inr (.inl ⟨v, rfl, h⟩)
  | memory a => exact .inr (.inr (.inl ⟨a, rfl, (Option.some.inj h).symm⟩))
  | collect i =>
    obtain ⟨⟨m₁, ending⟩, hcollect, rfl⟩ := Option.map_eq_some_iff.mp h
    obtain ⟨lane, hc⟩ := Machine.collected_of_collect? hcollect
    exact .inr (.inr (.inr ⟨i, lane, ending, rfl, hc⟩))

/-- Whether the unit at place `i` has been admitted. -/
def Machine.admitted (m : Machine) (i : Nat) : Bool := m.jobs[i]?.any fun j => !j.phase.waits

/-- What is kept while units are submitted to a pool as tasks, run and are collected: the permits
add up, and the events have started the units that have been admitted, each of them once. -/
structure Admitting (limit : Lane → Nat) (es : List Event) (m : Machine) : Prop where
  balanced : m.Balanced limit
  tasks : ∀ (i : Nat) (job : Job), m.jobs[i]? = some job → job.lane = .permit
  started : ∀ i, starts es i = if m.admitted i then 1 else 0

theorem admitting_start (config : Config) (world : World) :
    Admitting (Machine.start config world).free [] (Machine.start config world) where
  balanced := balanced_start config world
  tasks i job hjob := by
    simp [Machine.start] at hjob
  started i := by
    simp [Machine.admitted, Machine.start, starts]

theorem starts_concat (es : List Event) (e : Event) (i : Nat) :
    starts (es ++ [e]) i = starts es i + if e.starts i then 1 else 0 := by
  rw [starts, List.countP_append, List.countP_singleton]
  rfl

/-- Setting a job that keeps its lane and has been admitted admits this unit and no other. -/
theorem Machine.admitted_of_set {i : Nat} {lane : Lane} {p p' : Phase}
    (hjob : m.jobs[i]? = some ⟨lane, p⟩) (hjobs : m'.jobs = m.jobs.setIfInBounds i ⟨lane, p'⟩)
    (hp' : p'.waits = false) (j : Nat) : m'.admitted j = (m.admitted j || decide (j = i)) := by
  by_cases hj : j = i
  · subst hj
    have hset := job_of_set hjob hjobs
    simp [admitted, hset, hp']
  · have hset := job_of_set_ne hjobs hj
    simp [admitted, hset, hj]

theorem tasks_of_set {i : Nat} {lane : Lane} {p p' : Phase}
    (htasks : ∀ (i : Nat) (job : Job), m.jobs[i]? = some job → job.lane = .permit)
    (hjob : m.jobs[i]? = some ⟨lane, p⟩) (hjobs : m'.jobs = m.jobs.setIfInBounds i ⟨lane, p'⟩)
    (j : Nat) (job : Job) (hj : m'.jobs[j]? = some job) : job.lane = .permit := by
  by_cases hji : j = i
  · subst hji
    rw [Machine.job_of_set hjob hjobs] at hj
    obtain rfl := Option.some.inj hj
    exact htasks j ⟨lane, p⟩ hjob
  · rw [Machine.job_of_set_ne hjobs hji] at hj
    exact htasks j job hj

/-- A unit that is submitted joins the others and waits. -/
theorem Admitting.submit {limit : Lane → Nat} {es : List Event} (h : Admitting limit es m)
    (t : Task) : Admitting limit (es ++ [.submit .permit t]) (m.submit .permit t) where
  balanced := h.balanced.submit .permit t
  tasks i job hjob := by
    rw [Machine.submit, Array.getElem?_push] at hjob
    split_ifs at hjob with hi
    · obtain rfl := Option.some.inj hjob
      rfl
    · exact h.tasks i job hjob
  started i := by
    have hadmitted : (m.submit .permit t).admitted i = m.admitted i := by
      by_cases hi : i = m.jobs.size
      · subst hi
        simp [Machine.admitted, Machine.submit, Phase.waits]
      · simp [Machine.admitted, Machine.submit, Array.getElem?_push, hi]
    rw [starts_concat, hadmitted, h.started i]
    rfl

/-- A unit gets a permit only while it waits, and never waits again. -/
theorem Admitting.go {limit : Lane → Nat} {es : List Event} {v : Move} (h : Admitting limit es m)
    (hgo : m.go client v = some m') : Admitting limit (es ++ [.move v]) m' := by
  obtain ⟨lane, p, p', hmoved, hp', hp⟩ := Machine.moved_at_of_go hgo
  refine ⟨h.balanced.moved hmoved, tasks_of_set h.tasks hmoved.job hmoved.jobs, ?_⟩
  intro i
  rw [starts_concat, Machine.admitted_of_set hmoved.job hmoved.jobs hp', h.started i]
  by_cases hi : i = v.place
  · subst hi
    have hbefore : m.admitted v.place = !p.waits := by
      simp [Machine.admitted, hmoved.job]
    have hstarts : Event.starts v.place (.move v) = p.waits := by
      rw [Event.starts, Bool.eq_iff_iff, decide_eq_true_iff]
      exact hp.symm
    rw [hstarts, hbefore]
    cases p.waits <;> simp
  · have hother : v ≠ .launch i := by
      rintro rfl
      exact hi rfl
    simp [Event.starts, hi, hother]

/-- What is done with memory starts no unit. -/
theorem Admitting.use {limit : Lane → Nat} {es : List Event} (h : Admitting limit es m)
    (a : Memory.Action) : Admitting limit (es ++ [.memory a]) (m.use a) where
  balanced := h.balanced.use a
  tasks := h.tasks
  started i := by
    rw [starts_concat, h.started i]
    rfl

/-- Collecting a unit starts none. -/
theorem Admitting.collect {limit : Lane → Nat} {es : List Event} {i : Nat} {lane : Lane}
    {e : Ending} (h : Admitting limit es m) (hc : Collected m m' i lane e) :
    Admitting limit (es ++ [.collect i]) m' where
  balanced := h.balanced.collected hc
  tasks := tasks_of_set h.tasks hc.job hc.jobs
  started j := by
    have hadmitted : m'.admitted j = m.admitted j := by
      rw [Machine.admitted_of_set hc.job hc.jobs rfl]
      by_cases hj : j = i
      · subst hj
        simp [Machine.admitted, hc.job, Phase.waits]
      · simp [hj]
    rw [starts_concat, hadmitted, h.started j]
    rfl

/-- What each event keeps, a run keeps. -/
theorem Admitting.run {limit : Lane → Nat} {done es : List Event} (h : Admitting limit done m)
    (hasync : ∀ e ∈ es, e.isAsync) (hrun : m.run client es = some m') :
    Admitting limit (done ++ es) m' := by
  induction es generalizing done m with
  | nil =>
    obtain rfl := Option.some.inj hrun
    rwa [List.append_nil]
  | cons e es ih =>
    obtain ⟨m₁, hstep, hrest⟩ := Option.bind_eq_some_iff.mp hrun
    obtain ⟨he, hes⟩ := List.forall_mem_cons.mp hasync
    rw [List.append_cons]
    refine ih ?_ hes hrest
    rcases step_cases hstep with ⟨lane, t, rfl, rfl⟩ | ⟨v, rfl, hgo⟩ | ⟨a, rfl, rfl⟩ |
      ⟨i, lane, ending, rfl, hc⟩
    · obtain rfl : lane = .permit := by simpa [Event.isAsync] using he
      exact h.submit t
    · exact h.go hgo
    · exact h.use a
    · exact h.collect hc

/-! ## States -/

theorem inFlight_eq (job : Job) : job.phase.inFlight = (!job.phase.waits && !isOver job) := by
  obtain ⟨lane, p⟩ := job
  cases p <;> rfl

/-- The units that are running are those that hold a permit. -/
theorem Admitting.running {limit : Lane → Nat} {es : List Event} (h : Admitting limit es m) :
    m.freePermits + m.running = limit .permit := by
  have hrunning : m.running = m.inFlight .permit := by
    unfold Machine.running Machine.inFlight
    refine Array.countP_congr fun job hmem => ?_
    obtain ⟨i, hi⟩ := Array.mem_iff_getElem?.mp hmem
    rw [← inFlight_eq, h.tasks i job hi]
    simp
  rw [hrunning]
  exact h.balanced .permit

/-- A unit that holds a permit can go on. -/
theorem exists_go_of_inFlight {i : Nat} {job : Job} (client : Client)
    (hjob : m.jobs[i]? = some job) (hflight : job.phase.inFlight) :
    ∃ v m', v.place = i ∧ m.go client v = some m' := by
  obtain ⟨lane, p⟩ := job
  cases p with
  | active t =>
    refine ⟨.advance i, ?_⟩
    cases t <;> simp [Machine.go, hjob, Move.place]
  | calling k next =>
    refine ⟨.answer i, ?_⟩
    cases hanswer : client k <;> simp [Machine.go, hjob, hanswer, Move.place]
  | _ => cases hflight

/-- While a unit has not ended, one holds a permit, or this one can start. -/
theorem Admitting.unstuck {limit : Lane → Nat} {es : List Event} (h : Admitting limit es m)
    (hlimit : 0 < limit .permit) (client : Client) {i : Nat} {job : Job}
    (hjob : m.jobs[i]? = some job) (hover : isOver job = false) :
    (∃ (j : Nat) (other : Job), m.jobs[j]? = some other ∧ other.phase.inFlight) ∨
      ∃ m', m.go client (.launch i) = some m' := by
  -- In an idle pool all permits are free, so the unit is waiting and gets one.
  by_cases hidle : m.Idle
  · have hflight := hidle i job hjob
    have hfree : 0 < m.freePermits := by
      have hall : m.freePermits = limit .permit := h.balanced.free_of_idle hidle .permit
      omega
    have hlane := h.tasks i job hjob
    obtain ⟨lane, p⟩ := job
    obtain rfl : lane = .permit := hlane
    cases p with
    | waiting t => exact .inr (by simp [Machine.go, hjob, Machine.free, hfree])
    | active t => cases hflight
    | calling k next => cases hflight
    | ended e => cases hover
    | collected => cases hover
  · unfold Machine.Idle at hidle
    push Not at hidle
    obtain ⟨j, other, hother, hflight⟩ := hidle
    exact .inl ⟨j, other, hother, by simpa using hflight⟩

/-- A unit that ends, by returning or by a panic, gives its permit back. -/
theorem Admitting.free_of_go {limit : Lane → Nat} {es : List Event} {v : Move} {job : Job}
    (h : Admitting limit es m) (hgo : m.go client v = some m')
    (hjob : m'.jobs[v.place]? = some job) (hover : isOver job) :
    m'.freePermits = m.freePermits + 1 := by
  obtain ⟨lane, p, p', hmoved, -⟩ := Machine.moved_at_of_go hgo
  obtain rfl := Option.some.inj ((Machine.job_of_set hmoved.job hmoved.jobs).symm.trans hjob)
  obtain rfl : lane = .permit := h.tasks _ _ hmoved.job
  have hfree : m'.freePermits + Machine.held .permit .permit p' =
      m.freePermits + Machine.held .permit .permit p := hmoved.free .permit
  have hacts := hmoved.acts
  generalize m'.world = w at hacts
  cases hacts with
  | done r => exact hfree
  | panic message => exact hfree
  | lost next hm => exact hfree
  | _ => cases hover

/-- A pool that is alive and has come to its state through events: no more of its units run than it
has permits, each was started at most once, no permit is lost, and it is not stuck. -/
structure Admitted (client : Client) (capacity : Nat) (es : List Event) (m : Machine) : Prop where
  bounded : m.running ≤ capacity
  balanced : m.freePermits + m.running = capacity
  once : ∀ i, starts es i ≤ 1
  started : ∀ (i : Nat) (job : Job), m.jobs[i]? = some job →
    (starts es i = 1 ↔ job.phase.waits = false)
  returned : ∀ (v : Move) (m' : Machine) (job : Job), m.go client v = some m' →
    m'.jobs[v.place]? = some job → isOver job → m'.freePermits = m.freePermits + 1
  lively : ∀ (i : Nat) (job : Job), m.jobs[i]? = some job → job.phase.inFlight →
    ∃ v m', v.place = i ∧ m.go client v = some m'
  unstuck : ∀ (i : Nat) (job : Job), m.jobs[i]? = some job → isOver job = false →
    (∃ (j : Nat) (other : Job), m.jobs[j]? = some other ∧ other.phase.inFlight) ∨
      ∃ m', m.go client (.launch i) = some m'

/-- Units are submitted to a pool as tasks, in any number and at any time; each of them returns or
panics, and everything happens in any order. Then in every state the units that run and the free
permits add up to the capacity, and while a unit has not ended, one of those that run can go on, or
this one can start. -/
theorem admission_of_run (hvalid : config.validate = .ok ()) {es : List Event}
    (hasync : ∀ e ∈ es, e.isAsync) (hrun : (Machine.start config world).run client es = some m) :
    Admitted client config.capacity.toNat es m := by
  have hadmitting : Admitting (Machine.start config world).free es m :=
    (admitting_start config world).run hasync hrun
  have hsum : m.freePermits + m.running = config.capacity.toNat := hadmitting.running
  have hlimit : 0 < (Machine.start config world).free .permit :=
    (Config.validate_eq_ok_iff.mp hvalid).1
  constructor
  case bounded => omega
  case balanced => exact hsum
  case once =>
    intro i
    rw [hadmitting.started]
    split_ifs <;> omega
  case started =>
    intro i job hjob
    have hadmitted : m.admitted i = !job.phase.waits := by
      simp [Machine.admitted, hjob]
    rw [hadmitting.started, hadmitted]
    cases job.phase.waits <;> simp
  case returned =>
    intro v m' job hgo hjob hover
    exact hadmitting.free_of_go hgo hjob hover
  case lively =>
    intro i job hjob hflight
    exact exists_go_of_inFlight client hjob hflight
  case unstuck =>
    intro i job hjob hover
    exact hadmitting.unstuck hlimit client hjob hover

/-- On a pool with one permit, a unit that panics makes room for the one that waits. -/
theorem admission_of_panic :
    ∃ m, (Machine.start ⟨.io, 1, 1⟩ {}).run noClient
        [.submit .permit (.panic "lost"), .submit .permit (.done ⟨2, .sum 0⟩), .move (.launch 0),
          .move (.advance 0), .move (.launch 1)] = some m ∧
      m.freePermits + m.running = 1 := by
  obtain ⟨m, hm⟩ : ∃ m, (Machine.start ⟨.io, 1, 1⟩ {}).run noClient
      [.submit .permit (.panic "lost"), .submit .permit (.done ⟨2, .sum 0⟩), .move (.launch 0),
        .move (.advance 0), .move (.launch 1)] = some m := ⟨_, rfl⟩
  have hvalid : Config.validate ⟨.io, 1, 1⟩ = .ok () := rfl
  exact ⟨m, hm, (admission_of_run hvalid (by decide) hm).balanced⟩

end Admission

end BenchRig.Pool
