import BenchRig.Proofs.Pool.Steps
import Mathlib.Tactic.Push

/-!
# Every unit comes to its end

The free permits of a lane and those that its units hold add up to the permits it started with, also
when units panic. So a pool with a permit for each lane is never stuck: waiting for its units ends
with a panic, or with every unit collected.
-/

namespace BenchRig.Pool

open Machine (Moved Collected held)

variable {client : Client}

/-! ## Permits -/

/-- The permits of each lane add up to its limit. -/
def Machine.Balanced (limit : Lane → Nat) (m : Machine) : Prop :=
  ∀ ℓ, m.free ℓ + m.inFlight ℓ = limit ℓ

/-- Replacing a job changes the units in flight by what the old and the new job hold. -/
theorem inFlight_of_set {m m' : Machine} {i : Nat} {lane : Lane} {p p' : Phase}
    (hjob : m.jobs[i]? = some ⟨lane, p⟩) (hjobs : m'.jobs = m.jobs.setIfInBounds i ⟨lane, p'⟩)
    (ℓ : Lane) : m'.inFlight ℓ + held lane ℓ p = m.inFlight ℓ + held lane ℓ p' := by
  obtain ⟨hi, hget⟩ := Array.getElem?_eq_some_iff.mp hjob
  have hle := Array.boole_getElem_le_countP
    (p := fun j : Job => decide (j.lane = ℓ) && j.phase.inFlight) hi
  unfold Machine.inFlight
  rw [hjobs, Array.setIfInBounds, dif_pos hi, Array.countP_set hi]
  simp only [hget, Bool.and_eq_true, decide_eq_true_eq, held] at hle ⊢
  omega

theorem Machine.Balanced.moved {limit : Lane → Nat} {m m' : Machine} {i : Nat} {lane : Lane}
    {p p' : Phase} (hb : m.Balanced limit) (h : Moved client m m' i lane p p') :
    m'.Balanced limit := by
  intro ℓ
  have hflight := inFlight_of_set h.job h.jobs ℓ
  have hfree := h.free ℓ
  have := hb ℓ
  omega

theorem Machine.Balanced.collected {limit : Lane → Nat} {m m' : Machine} {i : Nat} {lane : Lane}
    {e : Ending} (hb : m.Balanced limit) (h : Collected m m' i lane e) : m'.Balanced limit := by
  intro ℓ
  have hflight := inFlight_of_set h.job h.jobs ℓ
  have hheld : held lane ℓ (.ended e) = 0 ∧ held lane ℓ .collected = 0 := by
    simp [held, Phase.inFlight]
  rw [h.free ℓ]
  have := hb ℓ
  omega

theorem Machine.Balanced.tell {limit : Lane → Nat} {m : Machine} (hb : m.Balanced limit)
    (e : Log.DispatchEvent) : (m.tell e).Balanced limit := fun ℓ => by
  rw [tell_free]
  exact hb ℓ

theorem Machine.Balanced.use {limit : Lane → Nat} {m : Machine} (hb : m.Balanced limit)
    (a : Memory.Action) : (m.use a).Balanced limit := fun ℓ => by
  rw [use_free]
  exact hb ℓ

theorem Machine.Balanced.stirred {limit : Lane → Nat} {m m' : Machine} (hb : m.Balanced limit)
    (h : Stirred client m m') : m'.Balanced limit := by
  cases h with
  | act h => exact hb.moved h
  | use a => exact hb.use a

theorem Machine.Balanced.submit {limit : Lane → Nat} {m : Machine} (hb : m.Balanced limit)
    (lane : Lane) (t : Task) : (m.submit lane t).Balanced limit := fun ℓ => by
  have hfree : (m.submit lane t).free ℓ = m.free ℓ := by cases ℓ <;> rfl
  have hflight : (m.submit lane t).inFlight ℓ = m.inFlight ℓ := by
    simp [Machine.inFlight, Machine.submit, Phase.inFlight]
  rw [hfree, hflight]
  exact hb ℓ

theorem balanced_start (c : Config) (world : World) :
    (Machine.start c world).Balanced (Machine.start c world).free := fun ℓ => by
  simp [Machine.inFlight, Machine.start]

/-- Every step keeps the sum of permits. -/
theorem Step.balanced {limit : Lane → Nat} {n : Nat} {w w' : Watched} (h : Step client n w w')
    (hb : w.1.Balanced limit) : w'.1.Balanced limit := by
  cases h with
  | act h => exact hb.moved h
  | use a => exact hb.use a
  | collect h => exact (hb.collected h).tell _
  | stop h => exact hb.collected h

/-- No step adds or removes a unit. -/
theorem Step.size {n : Nat} {w w' : Watched} (h : Step client n w w') :
    w'.1.jobs.size = w.1.jobs.size := by
  cases h with
  | act h => simp [h.jobs]
  | use a => rfl
  | collect h => simp [h.jobs]
  | stop h => simp [h.jobs]

theorem Plays.balanced {limit : Lane → Nat} {m m' : Machine} (h : Plays client m m')
    (hb : m.Balanced limit) : m'.Balanced limit :=
  h.invariant (fun hstir hm => hm.stirred hstir) hb

theorem Plays.size {m m' : Machine} (h : Plays client m m') : m'.jobs.size = m.jobs.size :=
  h.invariant (P := fun m₁ => m₁.jobs.size = m.jobs.size)
    (fun hstir hm => hstir.size.trans hm) rfl

/-! ## One unit -/

variable (client)

namespace Machine

section Play

variable {m : Machine} {i : Nat} {lane : Lane}

theorem play_launch_jobs {t : Task} (h : m.jobs[i]? = some ⟨lane, .waiting t⟩)
    (hfree : 0 < m.free lane) :
    (m.play client (.launch i)).jobs = m.jobs.setIfInBounds i ⟨lane, .active t⟩ := by
  simp [play, go, h, hfree]

theorem play_launch_of_not_waiting (h : ∀ lane t, m.jobs[i]? ≠ some ⟨lane, .waiting t⟩) :
    m.play client (.launch i) = m := by
  have hgo : m.go client (.launch i) = none := by
    cases hjob : m.jobs[i]? with
    | none => simp [go, hjob]
    | some job =>
      obtain ⟨lane, p⟩ := job
      cases p with
      | waiting t => exact absurd hjob (h lane t)
      | _ => simp [go, hjob]
  simp [play, hgo]

theorem play_advance_jobs_done {r : WorkerResult}
    (h : m.jobs[i]? = some ⟨lane, .active (.done r)⟩) :
    (m.play client (.advance i)).jobs = m.jobs.setIfInBounds i ⟨lane, .ended (.ok r)⟩ := by
  simp [play, go, h, finish]

theorem play_advance_jobs_panic {message : String}
    (h : m.jobs[i]? = some ⟨lane, .active (.panic message)⟩) :
    (m.play client (.advance i)).jobs =
      m.jobs.setIfInBounds i ⟨lane, .ended (.error message)⟩ := by
  simp [play, go, h, finish]

theorem play_advance_jobs_tell {e : Log.DispatchEvent} {next : Task}
    (h : m.jobs[i]? = some ⟨lane, .active (.tell e next)⟩) :
    (m.play client (.advance i)).jobs = m.jobs.setIfInBounds i ⟨lane, .active next⟩ := by
  simp [play, go, h]

theorem play_advance_jobs_call {url : String} {next : Reply → Task}
    (h : m.jobs[i]? = some ⟨lane, .active (.call url next)⟩) :
    (m.play client (.advance i)).jobs =
      m.jobs.setIfInBounds i ⟨lane, .calling m.world.calls.size next⟩ := by
  simp [play, go, h]

theorem play_answer_jobs_reply {k : Nat} {next : Reply → Task} {r : Reply}
    (h : m.jobs[i]? = some ⟨lane, .calling k next⟩) (hr : client k = .reply r) :
    (m.play client (.answer i)).jobs = m.jobs.setIfInBounds i ⟨lane, .active (next r)⟩ := by
  simp [play, go, h, hr]

theorem play_answer_jobs_panic {k : Nat} {next : Reply → Task} {message : String}
    (h : m.jobs[i]? = some ⟨lane, .calling k next⟩) (hm : client k = .panic message) :
    (m.play client (.answer i)).jobs =
      m.jobs.setIfInBounds i ⟨lane, .ended (.error message)⟩ := by
  simp [play, go, h, hm, finish]

/-- A unit that goes on comes to an end, and no other unit changes. -/
theorem complete_jobs {t : Task} (h : m.jobs[i]? = some ⟨lane, .active t⟩) :
    ∃ e, (m.complete client i t).jobs = m.jobs.setIfInBounds i ⟨lane, .ended e⟩ := by
  induction t generalizing m with
  | done r => exact ⟨.ok r, play_advance_jobs_done client h⟩
  | panic message => exact ⟨.error message, play_advance_jobs_panic client h⟩
  | tell e next ih =>
    have htell := play_advance_jobs_tell client h
    obtain ⟨e', he'⟩ := ih (job_of_set h htell)
    exact ⟨e', by rw [complete, he', htell, Array.setIfInBounds_setIfInBounds]⟩
  | call url next ih =>
    have hcall := play_advance_jobs_call client h
    have hcalling := job_of_set h hcall
    simp only [complete]
    split
    · rename_i r hr
      have hreply := play_answer_jobs_reply client hcalling hr
      obtain ⟨e, he⟩ := ih r (job_of_set hcalling hreply)
      refine ⟨e, ?_⟩
      rw [he, hreply, hcall, Array.setIfInBounds_setIfInBounds, Array.setIfInBounds_setIfInBounds]
    · rename_i message hm
      refine ⟨.error message, ?_⟩
      rw [play_answer_jobs_panic client hcalling hm, hcall, Array.setIfInBounds_setIfInBounds]

end Play

/-- Letting a unit go on, if it has started, changes no other unit, and in the end it is not in
flight. A unit that has not started is left alone. -/
theorem settle_jobs (m : Machine) (i : Nat) :
    (∀ j, j ≠ i → (m.settle client i).jobs[j]? = m.jobs[j]?) ∧
      ∀ job, (m.settle client i).jobs[i]? = some job → isOver job ∨
        (job.phase.inFlight = false ∧ m.jobs[i]? = some job) := by
  have hset : ∀ {m₁ : Machine} {lane : Lane} {e : Ending},
      m₁.jobs = m.jobs.setIfInBounds i ⟨lane, .ended e⟩ →
        (∀ j, j ≠ i → m₁.jobs[j]? = m.jobs[j]?) ∧
          ∀ job, m₁.jobs[i]? = some job → isOver job ∨
            (job.phase.inFlight = false ∧ m.jobs[i]? = some job) := by
    intro m₁ lane e h
    refine ⟨fun j hj => job_of_set_ne h hj, fun job hjob => ?_⟩
    rw [h, Array.getElem?_setIfInBounds_self] at hjob
    split_ifs at hjob
    obtain rfl := Option.some.inj hjob
    exact .inl rfl
  unfold settle
  split
  · rename_i lane t hjob
    obtain ⟨e, he⟩ := complete_jobs client hjob
    exact hset he
  · rename_i lane k next hjob
    split
    · rename_i r hr
      have hreply := play_answer_jobs_reply client hjob hr
      obtain ⟨e, he⟩ := complete_jobs client (job_of_set hjob hreply)
      rw [hreply, Array.setIfInBounds_setIfInBounds] at he
      exact hset he
    · rename_i message hm
      exact hset (play_answer_jobs_panic client hjob hm)
  · rename_i hactive hcalling
    refine ⟨fun _ _ => rfl, fun job hjob => .inr ⟨?_, hjob⟩⟩
    obtain ⟨lane, p⟩ := job
    cases p with
    | active t => exact absurd hjob (hactive lane t)
    | calling k next => exact absurd hjob (hcalling lane k next)
    | _ => rfl

end Machine

/-! ## All units -/

/-- What is established at each place in turn, and not undone at other places, holds at all of them
in the end; `I` is kept all along. -/
theorem foldl_range_establishes {σ : Type} {f : σ → Nat → σ} {I : σ → Prop} {Q : σ → Nat → Prop}
    (keeps : ∀ s i, I s → I (f s i)) (reaches : ∀ s i, I s → Q (f s i) i)
    (frames : ∀ s i j, I s → j ≠ i → Q s j → Q (f s i) j) {s : σ} (hs : I s) (n : Nat) :
    I ((List.range n).foldl f s) ∧ ∀ i < n, Q ((List.range n).foldl f s) i := by
  induction n with
  | zero => exact ⟨hs, fun i hi => absurd hi (Nat.not_lt_zero i)⟩
  | succ n ih =>
    obtain ⟨hI, hQ⟩ := ih
    rw [List.range_succ, List.foldl_append]
    refine ⟨keeps _ n hI, fun i hi => ?_⟩
    rcases Nat.lt_succ_iff_lt_or_eq.mp hi with hlt | rfl
    · exact frames _ n i hI (by omega) (hQ i hlt)
    · exact reaches _ i hI

namespace Machine

/-- No unit holds a permit. -/
def Idle (m : Machine) : Prop :=
  ∀ (i : Nat) (job : Job), m.jobs[i]? = some job → job.phase.inFlight = false

/-- Whether the unit at place `i` has ended. -/
def hasEnded (m : Machine) (i : Nat) : Bool := (m.jobs[i]?).any isOver

/-- Every unit has ended. -/
def Over (m : Machine) : Prop :=
  ∀ (i : Nat) (job : Job), m.jobs[i]? = some job → isOver job

theorem not_inFlight_of_isOver {job : Job} (h : isOver job) : job.phase.inFlight = false := by
  obtain ⟨lane, p⟩ := job
  cases p <;> first | rfl | cases h

theorem Over.idle {m : Machine} (h : m.Over) : m.Idle := fun i job hjob =>
  not_inFlight_of_isOver (h i job hjob)

/-- While no unit holds a permit, all permits are free. -/
theorem Balanced.free_of_idle {limit : Lane → Nat} {m : Machine} (hb : m.Balanced limit)
    (hidle : m.Idle) (ℓ : Lane) : m.free ℓ = limit ℓ := by
  have hnone : m.inFlight ℓ = 0 := by
    refine Array.countP_eq_zero.mpr fun job hjob => ?_
    obtain ⟨i, hi⟩ := Array.mem_iff_getElem?.mp hjob
    simp [hidle i job hi]
  have := hb ℓ
  omega

theorem Balanced.free_pos {limit : Lane → Nat} {m : Machine} (hb : m.Balanced limit)
    (hlimit : ∀ ℓ, 0 < limit ℓ) (hidle : m.Idle) (ℓ : Lane) : 0 < m.free ℓ := by
  rw [hb.free_of_idle hidle]
  exact hlimit ℓ

/-- After all units that have started have gone on, none is in flight. -/
theorem idle_settleAll (m : Machine) :
    ((List.range m.jobs.size).foldl (settle client) m).Idle := by
  have hsettled := foldl_range_establishes (f := settle client)
    (I := fun s => s.jobs.size = m.jobs.size)
    (Q := fun s i => ∀ job, s.jobs[i]? = some job → job.phase.inFlight = false)
    (fun s i hs => (plays_settle client s i).size.trans hs)
    (fun s i _ job hjob =>
      ((settle_jobs client s i).2 job hjob).elim not_inFlight_of_isOver fun h => h.1)
    (fun s i j _ hj hQ job hjob => hQ job ((settle_jobs client s i).1 j hj ▸ hjob))
    rfl m.jobs.size
  intro i job hjob
  have hi := (Array.getElem?_eq_some_iff.mp hjob).1
  exact hsettled.2 i (hsettled.1 ▸ hi) job hjob

/-- With a free permit of each lane, a unit that waits is run to its end, and no other unit
changes. -/
theorem runJob_jobs {m : Machine} (hidle : m.Idle) (hfree : ∀ ℓ, 0 < m.free ℓ) (i : Nat) :
    (∀ j, j ≠ i → (m.runJob client i).jobs[j]? = m.jobs[j]?) ∧
      ∀ job, (m.runJob client i).jobs[i]? = some job → isOver job := by
  obtain ⟨hothers, hself⟩ := settle_jobs client (m.play client (.launch i)) i
  by_cases hwaits : ∃ lane t, m.jobs[i]? = some ⟨lane, .waiting t⟩
  · obtain ⟨lane, t, hjob⟩ := hwaits
    have hlaunch := play_launch_jobs client hjob (hfree lane)
    refine ⟨fun j hj => ?_, fun job hjob' => ?_⟩
    · rw [runJob, hothers j hj, job_of_set_ne hlaunch hj]
    · rcases hself job hjob' with hover | ⟨hflight, hstays⟩
      · exact hover
      · obtain rfl := Option.some.inj ((job_of_set hjob hlaunch).symm.trans hstays)
        cases hflight
  · push Not at hwaits
    rw [play_launch_of_not_waiting client hwaits] at hothers hself
    rw [runJob, play_launch_of_not_waiting client hwaits]
    refine ⟨hothers, fun job hjob' => ?_⟩
    rcases hself job hjob' with hover | ⟨-, hstays⟩
    · exact hover
    · have hrests := hidle i job hstays
      obtain ⟨lane, p⟩ := job
      cases p with
      | waiting t => exact absurd hstays (hwaits lane t)
      | active t => cases hrests
      | calling k next => cases hrests
      | ended e => rfl
      | collected => rfl

/-- A unit that is run to its end gives its permit back. -/
theorem idle_runJob {m : Machine} (hidle : m.Idle) (hfree : ∀ ℓ, 0 < m.free ℓ) (i : Nat) :
    (m.runJob client i).Idle := by
  obtain ⟨hothers, hself⟩ := runJob_jobs client hidle hfree i
  intro j job hjob
  by_cases hj : j = i
  · subst hj
    exact not_inFlight_of_isOver (hself job hjob)
  · exact hidle j job (hothers j hj ▸ hjob)

/-- With permits for each lane, letting all units go on ends every one of them. -/
theorem over_runAll {limit : Lane → Nat} (hlimit : ∀ ℓ, 0 < limit ℓ) {m : Machine}
    (hb : m.Balanced limit) : (m.runAll client).Over := by
  have hsize : ((List.range m.jobs.size).foldl (settle client) m).jobs.size = m.jobs.size :=
    (Plays.foldl (plays_settle client) m _).size
  have hrun : ∀ s : Machine, s.Balanced limit ∧ s.Idle ∧ s.jobs.size = m.jobs.size → ∀ i,
      (∀ j, j ≠ i → (s.runJob client i).jobs[j]? = s.jobs[j]?) ∧
        ∀ job, (s.runJob client i).jobs[i]? = some job → isOver job := fun s hs i =>
    runJob_jobs client hs.2.1 (hs.1.free_pos hlimit hs.2.1) i
  have hend := foldl_range_establishes (f := runJob client)
    (I := fun s => s.Balanced limit ∧ s.Idle ∧ s.jobs.size = m.jobs.size)
    (Q := fun s i => ∀ job, s.jobs[i]? = some job → isOver job)
    (fun s i hs => ⟨(plays_runJob client s i).balanced hs.1,
      idle_runJob client hs.2.1 (hs.1.free_pos hlimit hs.2.1) i,
      (plays_runJob client s i).size.trans hs.2.2⟩)
    (fun s i hs => (hrun s hs i).2)
    (fun s i j hs hj hQ job hjob => hQ job ((hrun s hs i).1 j hj ▸ hjob))
    ⟨(Plays.foldl (plays_settle client) m _).balanced hb, idle_settleAll client m, hsize⟩
    m.jobs.size
  intro i job hjob
  have hi := (Array.getElem?_eq_some_iff.mp hjob).1
  exact hend.2 i (hend.1.2.2 ▸ hi) job hjob

end Machine

/-- Collecting the unit at place `i`, once it has ended and unless a panic has been collected,
leaves it collected. -/
theorem collectOne_jobs {w : Watched} (hover : w.1.Over) (n i : Nat) :
    (∀ j, j ≠ i → (collectOne n w i).1.jobs[j]? = w.1.jobs[j]?) ∧
      ((collectOne n w i).1.panicked.isSome ∨
        ∀ job, (collectOne n w i).1.jobs[i]? = some job → job.phase = .collected) := by
  unfold collectOne
  split
  · rename_i m r h
    obtain ⟨lane, hc⟩ := Machine.collected_of_collect? h
    have hset := Machine.job_of_set hc.job hc.jobs
    refine ⟨fun j hj => ?_, .inr fun job hjob => ?_⟩
    · rw [Machine.tell_jobs, Machine.job_of_set_ne hc.jobs hj]
    · rw [← Option.some.inj (hset.symm.trans hjob)]
  · rename_i m message h
    obtain ⟨lane, hc⟩ := Machine.collected_of_collect? h
    refine ⟨fun j hj => ?_, .inl ?_⟩
    · exact Machine.job_of_set_ne hc.jobs hj
    · rw [hc.panicked]
      rfl
  · rename_i h
    refine ⟨fun _ _ => rfl, ?_⟩
    simp only [Machine.collect?] at h
    split_ifs at h with hpanicked
    · exact .inl hpanicked
    · refine .inr fun job hjob => ?_
      obtain ⟨lane, p⟩ := job
      have hp := hover i _ hjob
      cases p with
      | ended e => cases e <;> simp [hjob] at h
      | collected => rfl
      | _ => cases hp

/-- A panic that has been collected stays collected. -/
theorem Step.panicked {client : Client} {n : Nat} {w w' : Watched} (h : Step client n w w')
    (hw : w.1.panicked.isSome) : w'.1.panicked.isSome := by
  cases h with
  | act h => rwa [h.panicked]
  | use a => exact hw
  | collect h => simp [h.calm] at hw
  | stop h => simp [h.calm] at hw

/-- A unit that has ended has ended for good. -/
theorem Collected.over {m m' : Machine} {i : Nat} {lane : Lane} {e : Ending}
    (h : Collected m m' i lane e) (hover : m.Over) : m'.Over := by
  intro j job hjob
  rw [h.jobs, Array.getElem?_setIfInBounds] at hjob
  split_ifs at hjob
  · obtain rfl := Option.some.inj hjob
    rfl
  · exact hover j job hjob

theorem over_collectOne {w : Watched} (hover : w.1.Over) (n i : Nat) :
    (collectOne n w i).1.Over := by
  unfold collectOne
  split
  · rename_i m r h
    obtain ⟨lane, hc⟩ := Machine.collected_of_collect? h
    have hm : m.Over := Collected.over hc hover
    exact hm
  · rename_i m message h
    obtain ⟨lane, hc⟩ := Machine.collected_of_collect? h
    exact Collected.over hc hover
  · exact hover

/-- Asking for every unit, when all of them have ended, ends with a panic or with all of them
collected. -/
theorem collectAll_collects {n : Nat} {w : Watched} (hover : w.1.Over)
    (hsize : w.1.jobs.size = n) :
    ((List.range n).foldl (collectOne n) w).1.panicked.isSome ∨
      ∀ (i : Nat) (job : Job), ((List.range n).foldl (collectOne n) w).1.jobs[i]? = some job →
        job.phase = .collected := by
  have hcollect := foldl_range_establishes (f := collectOne n)
    (I := fun s => s.1.Over ∧ s.1.jobs.size = n)
    (Q := fun s i => s.1.panicked.isSome ∨
      ∀ job, s.1.jobs[i]? = some job → job.phase = .collected)
    (fun s i hs => ⟨over_collectOne hs.1 n i,
      (steps_collectOne noClient s i).invariant (P := fun w => w.1.jobs.size = n)
        (fun hstep hw => hstep.size.trans hw) hs.2⟩)
    (fun s i hs => (collectOne_jobs hs.1 n i).2)
    (fun s i j hs hj hQ => hQ.imp
      (fun h => (steps_collectOne noClient s i).invariant
        (P := fun w => w.1.panicked.isSome) Step.panicked h)
      fun h job hjob => h job ((collectOne_jobs hs.1 n i).1 j hj ▸ hjob))
    ⟨hover, hsize⟩ n
  obtain ⟨⟨-, hsize'⟩, hQ⟩ := hcollect
  by_cases hpanicked : ((List.range n).foldl (collectOne n) w).1.panicked.isSome
  · exact .inl hpanicked
  · refine .inr fun i job hjob => ?_
    have hi := (Array.getElem?_eq_some_iff.mp hjob).1
    exact (hQ i (hsize' ▸ hi)).resolve_left hpanicked job hjob

/-- Waiting for the units of a pool, whatever course it takes, ends with a panic, or with every unit
collected. -/
theorem await_collects {limit : Lane → Nat} (hlimit : ∀ ℓ, 0 < limit ℓ) {n : Nat} {w : Watched}
    (hb : w.1.Balanced limit) (hsize : w.1.jobs.size = n) (course : Course) :
    (await client course n w).1.panicked.isSome ∨
      ∀ (i : Nat) (job : Job), (await client course n w).1.jobs[i]? = some job →
        job.phase = .collected := by
  have hlate := Steps.foldl (steps_happen client (n := n)) w course.late
  have hbalanced := hlate.invariant (P := fun w => w.1.Balanced limit) Step.balanced hb
  have hsame := hlate.invariant (P := fun w => w.1.jobs.size = n)
    (fun hstep hw => hstep.size.trans hw) hsize
  exact collectAll_collects (Machine.over_runAll client hlimit hbalanced)
    ((plays_runAll client _).size.trans hsame)

end BenchRig.Pool
