import BenchRig.Proofs.Pool.Life
import Mathlib.Data.List.Forall2

/-!
# Lives and results

While units act and are collected in any order, each unit that has not been collected is in the
middle of its life, and each result is the end of the life of one unit. The log hears of each result
in the same order, and nothing more of a unit once it has heard of its result.
-/

namespace BenchRig.Pool

open Machine (Moved Collected)

/-- The unit at place `i` has come to the phase `p` in the life of its task. -/
def Machine.LivedAt (client : Client) (base : World) (tasks : List Task) (m : Machine) (i : Nat)
    (p : Phase) : Prop :=
  ∃ t, tasks[i]? = some t ∧
    Lived client i t (base.callsBy m.world i) (base.toldBy m.world i) p

/-- The unit at place `i` has been collected, and its life had ended in the way `e`. -/
def Machine.TakenAt (client : Client) (base : World) (tasks : List Task) (m : Machine) (i : Nat)
    (e : Ending) : Prop :=
  (∃ lane, m.jobs[i]? = some ⟨lane, .collected⟩) ∧ m.LivedAt client base tasks i (.ended e)

/-- The units of a machine live the lives of their tasks, and those at the places `order` have been
collected in this order, each with the result that its life ended with. -/
structure Traced (client : Client) (base : World) (tasks : List Task) (m : Machine)
    (order : List Nat) : Prop where
  ext : base.Extends m.world
  size : m.jobs.size = tasks.length
  callers : ∀ c ∈ base.callsSince m.world, c.1.caller < tasks.length
  tellers : ∀ t ∈ base.toldSince m.world, ∀ i, t.1 = .worker i → i < tasks.length
  alive : ∀ (i : Nat) lane p, m.jobs[i]? = some ⟨lane, p⟩ → p ≠ .collected →
    m.LivedAt client base tasks i p
  nodup : order.Nodup
  results : List.Forall₂ (fun i r => m.TakenAt client base tasks i (.ok r)) order m.results.toList
  gathered : ∀ (i : Nat) lane, m.jobs[i]? = some ⟨lane, .collected⟩ →
    i ∈ order ∨ ∃ message, m.panicked = some (i, message)
  panicked : ∀ i message, m.panicked = some (i, message) →
    m.TakenAt client base tasks i (.error message)

section Traced

variable {client : Client} {base : World} {tasks : List Task} {m m' : Machine}
  {order : List Nat} {i : Nat} {lane : Lane} {p p' : Phase}

/-- A new pool is traced from any world with the calls and the log that it starts with. -/
theorem traced_start (client : Client) (c : Config) (world : World) (heap : Memory.Heap) :
    Traced client world [] (Machine.start c { world with heap }) [] := by
  have hcalls : world.callsSince { world with heap } = [] := World.callsSince_self
  have htold : world.toldSince { world with heap } = [] := World.toldSince_self
  exact
    { ext := ⟨List.prefix_rfl, List.prefix_rfl⟩
      size := rfl
      callers := by simp [Machine.start, hcalls]
      tellers := by simp [Machine.start, htold]
      alive := by simp [Machine.start]
      nodup := List.nodup_nil
      results := .nil
      gathered := by simp [Machine.start]
      panicked := by simp [Machine.start] }

/-- The units in the order of collection have been collected. -/
theorem Traced.taken (ht : Traced client base tasks m order) :
    ∀ i ∈ order, ∃ lane, m.jobs[i]? = some ⟨lane, .collected⟩ := by
  have hresults := ht.results
  clear ht
  generalize m.results.toList = results at hresults
  induction hresults with
  | nil => simp
  | cons htaken _ ih => exact List.forall_mem_cons.mpr ⟨htaken.1, ih⟩

/-- The units of a traced pool have the places of its tasks. -/
theorem Traced.lt_of_job (ht : Traced client base tasks m order) {job : Job}
    (hjob : m.jobs[i]? = some job) : i < tasks.length :=
  ht.size ▸ (Array.getElem?_eq_some_iff.mp hjob).1

theorem Traced.exists_job (ht : Traced client base tasks m order) (hi : i < tasks.length) :
    ∃ lane p, m.jobs[i]? = some ⟨lane, p⟩ :=
  ⟨_, _, Array.getElem?_eq_getElem (ht.size ▸ hi)⟩

theorem Traced.lt_of_mem (ht : Traced client base tasks m order) (hi : i ∈ order) :
    i < tasks.length := by
  obtain ⟨lane, hjob⟩ := ht.taken i hi
  exact ht.lt_of_job hjob

/-- Where no panic has been collected, whatever has been collected is a result. -/
theorem Traced.mem_of_collected (ht : Traced client base tasks m order)
    (hcalm : m.panicked = none) (hjob : m.jobs[i]? = some ⟨lane, .collected⟩) : i ∈ order := by
  rcases ht.gathered i lane hjob with hmem | ⟨message, hpanicked⟩
  · exact hmem
  · rw [hcalm] at hpanicked
    cases hpanicked

/-- What the dispatcher tells changes no life. -/
theorem Traced.tell (ht : Traced client base tasks m order) (e : Log.DispatchEvent) :
    Traced client base tasks (m.tell e) order := by
  have hlived : ∀ {i p}, m.LivedAt client base tasks i p →
      (m.tell e).LivedAt client base tasks i p := by
    rintro i p ⟨t, htask, hlived⟩
    refine ⟨t, htask, ?_⟩
    rwa [Machine.tell, World.toldBy_tell_dispatcher ht.ext]
  refine
    { ext := ht.ext.tell _ e
      size := ht.size
      callers := ht.callers
      tellers := fun t hmem i hi => ?_
      alive := fun i lane p hjob hp => hlived (ht.alive i lane p hjob hp)
      nodup := ht.nodup
      results := ht.results.imp fun i r htaken => ⟨htaken.1, hlived htaken.2⟩
      gathered := ht.gathered
      panicked := fun i message hpanicked =>
        ⟨(ht.panicked i message hpanicked).1, hlived (ht.panicked i message hpanicked).2⟩ }
  rw [Machine.tell, World.toldSince_tell ht.ext, List.mem_append, List.mem_singleton] at hmem
  rcases hmem with hmem | rfl
  · exact ht.tellers t hmem i hi
  · cases hi

/-- What is done with memory changes no life. -/
theorem Traced.use (ht : Traced client base tasks m order) (a : Memory.Action) :
    Traced client base tasks (m.use a) order := by
  have hlived : ∀ {i p}, m.LivedAt client base tasks i p →
      (m.use a).LivedAt client base tasks i p := by
    rintro i p ⟨t, htask, hlived⟩
    refine ⟨t, htask, ?_⟩
    rwa [Machine.use, World.callsBy_use, World.toldBy_use]
  exact
    { ext := ht.ext.use a
      size := ht.size
      callers := by simpa [Machine.use] using ht.callers
      tellers := by simpa [Machine.use] using ht.tellers
      alive := fun i lane p hjob hp => hlived (ht.alive i lane p hjob hp)
      nodup := ht.nodup
      results := ht.results.imp fun i r htaken => ⟨htaken.1, hlived htaken.2⟩
      gathered := ht.gathered
      panicked := fun i message hpanicked =>
        ⟨(ht.panicked i message hpanicked).1, hlived (ht.panicked i message hpanicked).2⟩ }

/-- At the place behind all tasks nothing has been called or told. -/
theorem Traced.blank (ht : Traced client base tasks m order) :
    base.callsBy m.world tasks.length = [] ∧ base.toldBy m.world tasks.length = [] := by
  constructor
  · refine List.filter_eq_nil_iff.mpr fun c hc => ?_
    have := ht.callers c hc
    simp only [decide_eq_true_eq]
    omega
  · refine List.filter_eq_nil_iff.mpr fun t hmem => ?_
    simp only [decide_eq_true_eq]
    intro hi
    have := ht.tellers t hmem _ hi
    omega

/-- A task that is submitted begins its life at the next place. -/
theorem Traced.submit (ht : Traced client base tasks m order) (lane : Lane) (t : Task) :
    Traced client base (tasks ++ [t]) (m.submit lane t) order := by
  have hlived : ∀ {i p}, m.LivedAt client base tasks i p →
      (m.submit lane t).LivedAt client base (tasks ++ [t]) i p := by
    rintro i p ⟨t', htask, hlived⟩
    refine ⟨t', ?_, hlived⟩
    rwa [List.getElem?_append_left (List.getElem?_eq_some_iff.mp htask).1]
  have htaken : ∀ {i e}, m.TakenAt client base tasks i e →
      (m.submit lane t).TakenAt client base (tasks ++ [t]) i e := by
    rintro i e ⟨⟨lane', hjob⟩, hlife⟩
    refine ⟨⟨lane', ?_⟩, hlived hlife⟩
    have hi := (Array.getElem?_eq_some_iff.mp hjob).1
    rw [Machine.submit, Array.getElem?_push, if_neg (by omega), hjob]
  refine
    { ext := ht.ext
      size := by simp [Machine.submit, ht.size]
      callers := fun c hc => Nat.lt_of_lt_of_le (ht.callers c hc) (by simp)
      tellers := fun t' hmem i hi => Nat.lt_of_lt_of_le (ht.tellers t' hmem i hi) (by simp)
      alive := fun i lane' p hjob hp => ?_
      nodup := ht.nodup
      results := ht.results.imp fun i r h => htaken h
      gathered := fun i lane' hjob => ?_
      panicked := fun i message h => htaken (ht.panicked i message h) }
  · rw [Machine.submit, Array.getElem?_push] at hjob
    split_ifs at hjob with hi
    · obtain ⟨rfl, rfl⟩ := Job.mk.inj (Option.some.inj hjob)
      refine ⟨t, by rw [hi, ht.size, List.getElem?_concat_length], ?_⟩
      have hnone := ht.blank
      rw [← ht.size, ← hi] at hnone
      have hcalls : base.callsBy (m.submit lane t).world i = [] := hnone.1
      have htold : base.toldBy (m.submit lane t).world i = [] := hnone.2
      rw [hcalls, htold]
      exact .waiting
    · exact hlived (ht.alive i lane' p hjob hp)
  · rw [Machine.submit, Array.getElem?_push] at hjob
    split_ifs at hjob with hi
    · cases hjob
    · exact ht.gathered i lane' hjob

/-- A unit that acts goes on with its life, and all others stay where they are. -/
theorem Traced.moved (ht : Traced client base tasks m order)
    (h : Moved client m m' i lane p p') : Traced client base tasks m' order := by
  have hi : i < tasks.length := ht.lt_of_job h.job
  have hp : p ≠ .collected := by
    rintro rfl
    cases h.acts
  have hp' : p' ≠ .collected := by
    rintro rfl
    cases h.acts
  have hjobs : ∀ j, j ≠ i → m'.jobs[j]? = m.jobs[j]? := fun j => Machine.job_of_set_ne h.jobs
  have hself : m'.jobs[i]? = some ⟨lane, p'⟩ := Machine.job_of_set h.job h.jobs
  have hlived : ∀ {j q}, j ≠ i → m.LivedAt client base tasks j q →
      m'.LivedAt client base tasks j q := by
    rintro j q hj ⟨t, htask, hlived⟩
    refine ⟨t, htask, ?_⟩
    rwa [World.callsBy_of_acts ht.ext h.acts hj, World.toldBy_of_acts ht.ext h.acts hj]
  have htaken : ∀ {j e}, m.TakenAt client base tasks j e → m'.TakenAt client base tasks j e := by
    rintro j e ⟨⟨lane', hjob⟩, hlife⟩
    have hj : j ≠ i := by
      rintro rfl
      exact hp (Machine.job_inj h.job hjob).2
    exact ⟨⟨lane', (hjobs j hj).trans hjob⟩, hlived hj hlife⟩
  refine
    { ext := ht.ext.acts h.acts
      size := by rw [h.jobs, Array.size_setIfInBounds, ht.size]
      callers := fun c hc => ?_
      tellers := fun t hmem j hj => ?_
      alive := fun j lane' q hjob hq => ?_
      nodup := ht.nodup
      results := h.results ▸ ht.results.imp fun j r htake => htaken htake
      gathered := fun j lane' hjob => ?_
      panicked := fun j message hpanicked =>
        htaken (ht.panicked j message (h.panicked ▸ hpanicked)) }
  · obtain ⟨new, hnew, hown⟩ := World.callsSince_of_acts ht.ext h.acts
    rw [hnew, List.mem_append] at hc
    rcases hc with hc | hc
    · exact ht.callers c hc
    · rwa [hown c hc]
  · obtain ⟨new, hnew, hown⟩ := World.toldSince_of_acts ht.ext h.acts
    rw [hnew, List.mem_append] at hmem
    rcases hmem with hmem | hmem
    · exact ht.tellers t hmem j hj
    · obtain rfl := Teller.worker.inj ((hown t hmem).symm.trans hj)
      exact hi
  · by_cases hj : j = i
    · subst hj
      obtain ⟨rfl, rfl⟩ := Machine.job_inj hself hjob
      obtain ⟨t, htask, hlife⟩ := ht.alive j lane p h.job hp
      exact ⟨t, htask, hlife.acts ht.ext h.acts⟩
    · exact hlived hj (ht.alive j lane' q (hjobs j hj ▸ hjob) hq)
  · rw [h.panicked]
    by_cases hj : j = i
    · subst hj
      exact absurd (Machine.job_inj hself hjob).2 hp'
    · exact ht.gathered j lane' (hjobs j hj ▸ hjob)

theorem Traced.stirred (ht : Traced client base tasks m order) (h : Stirred client m m') :
    Traced client base tasks m' order := by
  cases h with
  | act h => exact ht.moved h
  | use a => exact ht.use a

/-- A unit that is collected has come to the end of its life; a result joins the order, and a panic
is remembered. -/
theorem Traced.collected {e : Ending} (ht : Traced client base tasks m order)
    (h : Collected m m' i lane e) :
    Traced client base tasks m' (order ++ (e.toOption.map fun _ => i).toList) := by
  have hjobs : ∀ j, j ≠ i → m'.jobs[j]? = m.jobs[j]? := fun j => Machine.job_of_set_ne h.jobs
  have hself : m'.jobs[i]? = some ⟨lane, .collected⟩ := Machine.job_of_set h.job h.jobs
  have hlived : ∀ {j q}, m.LivedAt client base tasks j q → m'.LivedAt client base tasks j q := by
    rintro j q ⟨t, htask, hlife⟩
    exact ⟨t, htask, by rwa [h.world]⟩
  have htaken : ∀ {j e}, m.TakenAt client base tasks j e → m'.TakenAt client base tasks j e := by
    rintro j e ⟨⟨lane', hjob⟩, hlife⟩
    have hj : j ≠ i := by
      rintro rfl
      cases (Machine.job_inj h.job hjob).2
    exact ⟨⟨lane', (hjobs j hj).trans hjob⟩, hlived hlife⟩
  have hnew : m'.TakenAt client base tasks i e :=
    ⟨⟨lane, hself⟩, hlived (ht.alive i lane _ h.job (by simp))⟩
  have hfresh : i ∉ order := fun hmem => by
    obtain ⟨lane', hjob⟩ := ht.taken i hmem
    cases (Machine.job_inj h.job hjob).2
  have halive : ∀ (j : Nat) lane' q, m'.jobs[j]? = some ⟨lane', q⟩ → q ≠ .collected →
      m'.LivedAt client base tasks j q := by
    intro j lane' q hjob hq
    by_cases hj : j = i
    · subst hj
      exact absurd (Machine.job_inj hself hjob).2.symm hq
    · exact hlived (ht.alive j lane' q (hjobs j hj ▸ hjob) hq)
  have hgathered : ∀ (j : Nat) lane', m'.jobs[j]? = some ⟨lane', .collected⟩ →
      j ∈ order ∨ j = i := by
    intro j lane' hjob
    by_cases hj : j = i
    · exact .inr hj
    · rcases ht.gathered j lane' (hjobs j hj ▸ hjob) with hmem | ⟨message, hpanicked⟩
      · exact .inl hmem
      · rw [h.calm] at hpanicked
        cases hpanicked
  have hresults := h.results
  have hpanicked := h.panicked
  refine
    { ext := h.world ▸ ht.ext
      size := by rw [h.jobs, Array.size_setIfInBounds, ht.size]
      callers := h.world ▸ ht.callers
      tellers := h.world ▸ ht.tellers
      alive := halive
      nodup := ?_
      results := ?_
      gathered := fun j lane' hjob => ?_
      panicked := fun j message' hj => ?_ }
  · cases e with
    | ok r =>
      simpa [Except.toOption, List.nodup_append, ht.nodup] using fun j hj => by
        rintro rfl
        exact hfresh hj
    | error message => simpa [Except.toOption] using ht.nodup
  · rw [hresults]
    have hold := ht.results.imp fun j r h => htaken h
    cases e with
    | ok r => exact List.rel_append hold (.cons hnew .nil)
    | error message => simpa [Except.toOption] using hold
  · rcases hgathered j lane' hjob with hmem | rfl
    · exact .inl (List.mem_append_left _ hmem)
    · cases e with
      | ok r => exact .inl (List.mem_append_right _ (by simp [Except.toOption]))
      | error message => exact .inr ⟨message, hpanicked⟩
  · rw [hpanicked] at hj
    cases e with
    | ok r => cases hj
    | error message =>
      obtain ⟨rfl, rfl⟩ := Prod.mk.inj (Option.some.inj hj)
      exact hnew

end Traced

end BenchRig.Pool
