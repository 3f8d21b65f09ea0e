import BenchRig.Proofs.Pool.Replay
import BenchRig.Proofs.Pool.Run

/-!
# When units end and when they are collected

The story of a run tells which unit ends and whose result is collected, in the order in which that
happens. A result is collected some time after its unit has ended, so the two orders may differ;
they are the same where each unit that ends is collected before the next one ends.
-/

namespace BenchRig.Pool

open Machine (Moved Collected isOver)
open Memory (Sampler)

/-! ## Stories -/

/-- What the story of a run tells of its units. -/
inductive Milestone where
  /-- The unit at place `i` ends. -/
  | ended (i : Nat)
  /-- Its result is collected. -/
  | collected (i : Nat)
  deriving DecidableEq

/-- The units that end in a story, in that order. -/
def endsOf (story : List Milestone) : List Nat :=
  story.filterMap fun | .ended i => some i | .collected _ => none

/-- The units whose results are collected in a story, in that order. -/
def takesOf (story : List Milestone) : List Nat :=
  story.filterMap fun | .ended _ => none | .collected i => some i

/-- A story in which each unit ends once, and is collected once after that. -/
inductive Sound : List Milestone → Prop where
  | nil : Sound []
  | ended {story : List Milestone} {i : Nat} (h : Sound story) (hi : i ∉ endsOf story) :
      Sound (story ++ [.ended i])
  | collected {story : List Milestone} {i : Nat} (h : Sound story) (he : i ∈ endsOf story)
      (hi : i ∉ takesOf story) : Sound (story ++ [.collected i])

section Stories

variable {story : List Milestone} {i : Nat}

@[simp] theorem endsOf_append (story story' : List Milestone) :
    endsOf (story ++ story') = endsOf story ++ endsOf story' :=
  List.filterMap_append

@[simp] theorem takesOf_append (story story' : List Milestone) :
    takesOf (story ++ story') = takesOf story ++ takesOf story' :=
  List.filterMap_append

@[simp] theorem endsOf_ended (i : Nat) : endsOf [.ended i] = [i] := rfl

@[simp] theorem endsOf_collected (i : Nat) : endsOf [.collected i] = [] := rfl

@[simp] theorem takesOf_ended (i : Nat) : takesOf [.ended i] = [] := rfl

@[simp] theorem takesOf_collected (i : Nat) : takesOf [.collected i] = [i] := rfl

theorem mem_endsOf : i ∈ endsOf story ↔ .ended i ∈ story := by
  unfold endsOf
  rw [List.mem_filterMap]
  constructor
  · rintro ⟨e, he, hi⟩
    cases e with
    | ended j => cases hi; exact he
    | collected j => cases hi
  · intro h
    exact ⟨_, h, rfl⟩

theorem Sound.nodup (h : Sound story) : (endsOf story).Nodup := by
  induction h with
  | nil => exact List.nodup_nil
  | ended h hi ih =>
    rw [endsOf_append, endsOf_ended, List.nodup_append]
    refine ⟨ih, by simp, fun j hj k hk hjk => ?_⟩
    obtain rfl := List.mem_singleton.mp hk
    exact hi (hjk ▸ hj)
  | collected h he hi ih => simpa using ih

/-- What is collected has ended before. -/
theorem Sound.ended_before (h : Sound story) :
    ∀ i ∈ takesOf story, [.ended i, .collected i].Sublist story := by
  induction h with
  | nil => simp [takesOf]
  | ended h hi ih =>
    intro j hj
    rw [takesOf_append, takesOf_ended, List.append_nil] at hj
    exact (ih j hj).trans (List.sublist_append_left _ _)
  | collected h he hi ih =>
    intro j hj
    rw [takesOf_append, takesOf_collected, List.mem_append, List.mem_singleton] at hj
    rcases hj with hj | rfl
    · exact (ih j hj).trans (List.sublist_append_left _ _)
    · exact (List.singleton_sublist.mpr (mem_endsOf.mp he)).append (List.Sublist.refl [_])

theorem Sound.takes_subset (h : Sound story) : ∀ i ∈ takesOf story, i ∈ endsOf story :=
  fun i hi => mem_endsOf.mpr ((h.ended_before i hi).subset List.mem_cons_self)

/-- A story in which no two units end one right after the other. -/
def Prompt (story : List Milestone) : Prop := ∀ i j, ¬ [.ended i, .ended j] <:+: story

theorem Prompt.of_append {story' : List Milestone} (h : Prompt (story ++ story')) :
    Prompt story := fun i j hij =>
  h i j (hij.trans (List.prefix_append story story').isInfix)

/-- In a prompt story units are collected in the order in which they end; only the last one that has
ended may be left. -/
theorem Sound.takes_of_prompt (h : Sound story) (hprompt : Prompt story) :
    takesOf story = endsOf story ∨
      ∃ i, endsOf story = takesOf story ++ [i] ∧ story.getLast? = some (.ended i) := by
  induction h with
  | nil => exact .inl rfl
  | @ended story i h hi ih =>
    rcases ih hprompt.of_append with hsame | ⟨j, -, hlast⟩
    · exact .inr ⟨i, by simp [hsame], by simp⟩
    · obtain ⟨front, rfl⟩ := List.getLast?_eq_some_iff.mp hlast
      exact absurd ⟨front, [], by simp⟩ (hprompt j i)
  | @collected story i h he hi ih =>
    rcases ih hprompt.of_append with hsame | ⟨j, hends, -⟩
    · exact absurd (hsame ▸ he) hi
    · rw [hends, List.mem_append, List.mem_singleton] at he
      obtain rfl := he.resolve_left hi
      exact .inl (by simp [hends])

end Stories

/-! ## The story of a run -/

/-- What an event adds to the story of a watched pool. -/
def milestone? (client : Client) (w : Watched) : Event → Option Milestone
  | .submit _ _ | .memory _ => none
  | .move v =>
    if w.1.hasEnded v.place = false ∧ (w.1.play client v).hasEnded v.place then
      some (.ended v.place)
    else none
  | .collect i => (resultAt w (.collect i)).map .collected

/-- The story of a watched pool along events. -/
def storyAlong (client : Client) (n : Nat) : Watched → List Event → List Milestone
  | _, [] => []
  | w, e :: es => (milestone? client w e).toList ++ storyAlong client n (occur client n w e) es

/-- The story of a run that waits for its units. -/
def runStory (client : Client) (config : Config) (lane : Lane) (tasks : List Task) (watch : Bool)
    (course : Course) (world : World) : List Milestone :=
  let n := tasks.length
  let sampler := (startWatch watch world).2
  let first := (created config watch world, sampler)
  let second := (opened client config lane tasks watch course world, sampler)
  storyAlong client n first (openEvents course lane tasks) ++
    storyAlong client n second (awaitEvents client course n second)

/-- A story that is sound and tells which units of a machine have ended, and of none but collected
ones that they are. -/
structure Recorded (story : List Milestone) (m : Machine) : Prop where
  sound : Sound story
  ends : ∀ i, i ∈ endsOf story ↔ m.hasEnded i
  takes : ∀ i ∈ takesOf story, ∃ lane, m.jobs[i]? = some ⟨lane, .collected⟩

section Recorded

variable {client : Client} {n : Nat} {story : List Milestone} {m m' : Machine} {i : Nat}
  {lane : Lane} {p p' : Phase}

theorem hasEnded_eq {job : Job} (h : m.jobs[i]? = some job) : m.hasEnded i = isOver job := by
  simp [Machine.hasEnded, h]

theorem lt_of_hasEnded (h : m.hasEnded i) : i < m.jobs.size := by
  unfold Machine.hasEnded at h
  cases hjob : m.jobs[i]? with
  | none => simp [hjob] at h
  | some job => exact (Array.getElem?_eq_some_iff.mp hjob).1

/-- A unit that acts has not ended before, and no unit is collected by that. -/
theorem Recorded.moved (hr : Recorded story m) (h : Moved client m m' i lane p p') :
    Recorded
      (story ++ if m.hasEnded i = false ∧ m'.hasEnded i then [.ended i] else []) m' := by
  have hbefore : m.hasEnded i = false := by
    rw [hasEnded_eq h.job]
    have hacts := h.acts
    generalize m'.world = w at hacts
    cases hacts <;> rfl
  have hothers : ∀ j, j ≠ i → m'.jobs[j]? = m.jobs[j]? := fun j => Machine.job_of_set_ne h.jobs
  have htakes : ∀ j ∈ takesOf story, ∃ lane, m'.jobs[j]? = some ⟨lane, .collected⟩ := by
    intro j hj
    obtain ⟨lane', hjob⟩ := hr.takes j hj
    have hji : j ≠ i := by
      rintro rfl
      rw [hasEnded_eq hjob] at hbefore
      cases hbefore
    exact ⟨lane', (hothers j hji).trans hjob⟩
  have hends : ∀ j, j ≠ i → (j ∈ endsOf story ↔ m'.hasEnded j) := fun j hj => by
    rw [hr.ends j, Machine.hasEnded, Machine.hasEnded, hothers j hj]
  have hnot : i ∉ endsOf story := by
    rw [hr.ends i, hbefore]
    exact Bool.false_ne_true
  by_cases hafter : m'.hasEnded i
  · rw [if_pos ⟨hbefore, hafter⟩]
    refine ⟨hr.sound.ended hnot, fun j => ?_, by simpa using htakes⟩
    rw [endsOf_append, endsOf_ended, List.mem_append, List.mem_singleton]
    by_cases hj : j = i
    · subst hj
      simp [hafter]
    · rw [← hends j hj]
      simp [hj]
  · rw [if_neg fun h => hafter h.2, List.append_nil]
    refine ⟨hr.sound, fun j => ?_, htakes⟩
    by_cases hj : j = i
    · subst hj
      exact iff_of_false hnot hafter
    · exact hends j hj

/-- A result is collected of a unit that has ended, and never again. -/
theorem Recorded.collected {e : Ending} (hr : Recorded story m) (h : Collected m m' i lane e) :
    Recorded (story ++ (e.toOption.map fun _ => .collected i).toList) m' := by
  have hothers : ∀ j, j ≠ i → m'.jobs[j]? = m.jobs[j]? := fun j => Machine.job_of_set_ne h.jobs
  have hself := Machine.job_of_set h.job h.jobs
  have hends : ∀ j, j ∈ endsOf story ↔ m'.hasEnded j := fun j => by
    rw [hr.ends j]
    by_cases hj : j = i
    · subst hj
      rw [hasEnded_eq h.job, hasEnded_eq hself]
      rfl
    · rw [Machine.hasEnded, Machine.hasEnded, hothers j hj]
  have hnot : i ∉ takesOf story := fun hmem => by
    obtain ⟨lane', hjob⟩ := hr.takes i hmem
    cases (Machine.job_inj h.job hjob).2
  have htakes : ∀ j ∈ takesOf story, ∃ lane, m'.jobs[j]? = some ⟨lane, .collected⟩ := by
    intro j hj
    obtain ⟨lane', hjob⟩ := hr.takes j hj
    exact ⟨lane', (hothers j fun hji => hnot (hji ▸ hj)).trans hjob⟩
  cases e with
  | error message => exact ⟨by simpa [Except.toOption] using hr.sound,
      by simpa [Except.toOption] using hends, by simpa [Except.toOption] using htakes⟩
  | ok r =>
    have hended : i ∈ endsOf story := by
      rw [hr.ends i, hasEnded_eq h.job]
      rfl
    refine ⟨hr.sound.collected hended hnot, by simpa [Except.toOption] using hends, fun j hj => ?_⟩
    rw [Except.toOption, Option.map_some, Option.toList_some, takesOf_append, takesOf_collected,
      List.mem_append, List.mem_singleton] at hj
    rcases hj with hj | rfl
    · exact htakes j hj
    · exact ⟨lane, hself⟩

/-- A unit that is submitted has not ended. -/
theorem Recorded.submit (hr : Recorded story m) (lane : Lane) (t : Task) :
    Recorded story (m.submit lane t) := by
  refine ⟨hr.sound, fun i => ?_, fun i hi => ?_⟩
  · rw [hr.ends i, Machine.hasEnded, Machine.hasEnded, Machine.submit, Array.getElem?_push]
    split_ifs with hi
    · subst hi
      simp [isOver]
    · rfl
  · obtain ⟨lane', hjob⟩ := hr.takes i hi
    refine ⟨lane', ?_⟩
    rw [Machine.submit, Array.getElem?_push,
      if_neg (Nat.ne_of_lt (Array.getElem?_eq_some_iff.mp hjob).1), hjob]

theorem Recorded.play (hr : Recorded story m) (client : Client) (v : Move) :
    Recorded (story ++ if m.hasEnded v.place = false ∧ (m.play client v).hasEnded v.place then
      [.ended v.place] else []) (m.play client v) := by
  unfold Machine.play
  cases hgo : m.go client v with
  | none =>
    rw [Option.getD_none, if_neg fun h => by simp [h.1] at h, List.append_nil]
    exact hr
  | some m' =>
    obtain ⟨lane, p, p', hmoved, -⟩ := Machine.moved_at_of_go hgo
    exact hr.moved hmoved

theorem Recorded.tell (hr : Recorded story m) (e : Log.DispatchEvent) :
    Recorded story (m.tell e) :=
  ⟨hr.sound, hr.ends, hr.takes⟩

theorem Recorded.collectOne {w : Watched} (hr : Recorded story w.1) (n i : Nat) :
    Recorded (story ++ ((resultAt w (.collect i)).map .collected).toList)
      (collectOne n w i).1 := by
  cases hcollect : w.1.collect? i with
  | none => simpa [Pool.collectOne, resultAt, hcollect] using hr
  | some c =>
    obtain ⟨m, e⟩ := c
    obtain ⟨lane, hc⟩ := Machine.collected_of_collect? hcollect
    have hnext := hr.collected hc
    cases e with
    | ok r =>
      simp only [Pool.collectOne, resultAt, hcollect]
      exact hnext.tell _
    | error message =>
      simp only [Pool.collectOne, resultAt, hcollect]
      exact hnext

/-- Every event adds to the story what it is to units. -/
theorem Recorded.occur {w : Watched} (hr : Recorded story w.1) (n : Nat) (e : Event) :
    Recorded (story ++ (milestone? client w e).toList) (occur client n w e).1 := by
  cases e with
  | submit lane t =>
    rw [milestone?, Option.toList_none, List.append_nil]
    exact hr.submit lane t
  | move v =>
    have hplay := hr.play client v
    rw [milestone?, apply_ite Option.toList]
    exact hplay
  | memory a =>
    rw [milestone?, Option.toList_none, List.append_nil]
    exact ⟨hr.sound, hr.ends, hr.takes⟩
  | collect i => exact hr.collectOne n i

theorem Recorded.along {w : Watched} (hr : Recorded story w.1) (client : Client) (n : Nat)
    (es : List Event) :
    Recorded (story ++ storyAlong client n w es) (es.foldl (Pool.occur client n) w).1 := by
  induction es generalizing w story with
  | nil => simpa [storyAlong] using hr
  | cons e es ih =>
    rw [storyAlong, ← List.append_assoc]
    exact ih (hr.occur n e)

theorem recorded_created (config : Config) (watch : Bool) (world : World) :
    Recorded [] (created config watch world) :=
  ⟨.nil, by simp [endsOf, Machine.hasEnded, created, Machine.start], by simp [takesOf]⟩

/-- The story of a run is sound, and tells which of its units have ended. -/
theorem recorded_run (client : Client) (config : Config) (lane : Lane)
    (tasks : List Task) (watch : Bool) (course : Course) (world : World) :
    Recorded (runStory client config lane tasks watch course world)
      (await client course tasks.length (opened client config lane tasks watch course world,
        (startWatch watch world).2)).1 := by
  have hopen := (recorded_created config watch world).along client tasks.length
    (w := (created config watch world, (startWatch watch world).2)) (openEvents course lane tasks)
  rw [foldl_openEvents client tasks.length course lane tasks rfl, List.nil_append] at hopen
  have hopened : Recorded _ (opened client config lane tasks watch course world) :=
    hopen.tell _
  have hend := hopened.along client tasks.length
    (w := (opened client config lane tasks watch course world, (startWatch watch world).2))
    (awaitEvents client course tasks.length
      (opened client config lane tasks watch course world, (startWatch watch world).2))
  rwa [foldl_awaitEvents] at hend

end Recorded

/-! ## The order of collection -/

section Takes

variable {client : Client} {n : Nat}

theorem storyAlong_append (w : Watched) (es es' : List Event) :
    storyAlong client n w (es ++ es') =
      storyAlong client n w es ++ storyAlong client n (es.foldl (occur client n) w) es' := by
  induction es generalizing w with
  | nil => rfl
  | cons e es ih => simp only [List.cons_append, storyAlong, ih, List.foldl_cons,
      List.append_assoc]

/-- An event collects the unit whose result it adds to the order of collection. -/
theorem takesOf_milestone (w : Watched) (e : Event) :
    takesOf (milestone? client w e).toList = (resultAt w e).toList := by
  cases e with
  | submit lane t => rfl
  | memory a => rfl
  | move v =>
    rw [milestone?]
    split_ifs <;> rfl
  | collect i =>
    rw [milestone?]
    cases resultAt w (.collect i) <;> rfl

/-- Where nothing is collected, the story tells of no collection. -/
theorem takesOf_storyAlong_of_none {es : List Event}
    (h : ∀ w : Watched, ∀ e ∈ es, resultAt w e = none) (w : Watched) :
    takesOf (storyAlong client n w es) = [] := by
  induction es generalizing w with
  | nil => rfl
  | cons e es ih =>
    rw [storyAlong, takesOf_append, takesOf_milestone, h w e List.mem_cons_self,
      ih fun w' e' he' => h w' e' (List.mem_cons_of_mem _ he')]
    rfl

/-- The results that are collected along events are those that the story tells of. -/
theorem takesOf_storyAlong_late (w : Watched) (es : List Event) :
    takesOf (storyAlong client n w (es.filter Event.isLate)) = resultsAlong client n w es := by
  induction es generalizing w with
  | nil => rfl
  | cons e es ih =>
    by_cases he : e.isLate
    · have hoccur : occur client n w e = happen client n w e := by
        cases e with
        | submit lane t => cases he
        | _ => rfl
      rw [List.filter_cons_of_pos he, storyAlong, takesOf_append, takesOf_milestone, hoccur, ih,
        resultsAlong]
    · obtain ⟨lane, t, rfl⟩ : ∃ lane t, e = .submit lane t := by
        cases e with
        | submit lane t => exact ⟨lane, t, rfl⟩
        | _ => exact absurd rfl he
      rw [List.filter_cons_of_neg he, ih]
      rfl

theorem takesOf_storyAlong_await (course : Course) (w : Watched) :
    takesOf (storyAlong client n w (awaitEvents client course n w)) =
      awaitOrder client course n w := by
  have hlate := foldl_late client n w course.late
  obtain ⟨⟨m, s⟩, hw⟩ : ∃ w', course.late.foldl (happen client n) w = w' := ⟨_, rfl⟩
  rw [hw] at hlate
  have hmoves := foldl_moves client n m s (m.runAllMoves client)
  rw [foldl_runAllMoves] at hmoves
  have hcollects : ((List.range n).map Event.collect).filter Event.isLate =
      (List.range n).map Event.collect :=
    List.filter_eq_self.mpr fun e he => by
      obtain ⟨i, -, rfl⟩ := List.mem_map.mp he
      rfl
  have hnone : ∀ w : Watched, ∀ e ∈ (m.runAllMoves client).map Event.move, resultAt w e = none := by
    intro w e he
    obtain ⟨v, -, rfl⟩ := List.mem_map.mp he
    rfl
  have hlast : takesOf (storyAlong client n (m.runAll client, s) ((List.range n).map .collect)) =
      resultsAlong client n (m.runAll client, s) ((List.range n).map .collect) := by
    rw [← takesOf_storyAlong_late, hcollects]
  rw [awaitEvents, storyAlong_append, storyAlong_append, takesOf_append, takesOf_append, hlate,
    hmoves, takesOf_storyAlong_late, takesOf_storyAlong_of_none hnone, List.nil_append, hlast,
    awaitOrder, hw]

/-- Nothing is collected while tasks are submitted. -/
theorem resultAt_openEvents (course : Course) (lane : Lane) (tasks : List Task) (w : Watched) :
    ∀ e ∈ openEvents course lane tasks, resultAt w e = none := by
  have hfree : ∀ es : List Event, ∀ e ∈ es.filter Event.isFree, resultAt w e = none := by
    intro es e he
    have hfree := (List.mem_filter.mp he).2
    cases e with
    | collect i => cases hfree
    | _ => rfl
  have hsubmissions : ∀ k, ∀ e ∈ submissions course.early lane k tasks, resultAt w e = none := by
    induction tasks with
    | nil => simp [submissions]
    | cons t tasks ih =>
      intro k e he
      rw [submissions, List.mem_cons, List.mem_append] at he
      rcases he with rfl | he | he
      · rfl
      · exact hfree _ e he
      · exact ih (k + 1) e he
  intro e he
  rcases List.mem_append.mp he with he | he
  · exact hfree _ e he
  · exact hsubmissions 0 e he

/-- The story of a run tells of its results in the order of collection. -/
theorem takesOf_runStory {config : Config} (hbuild : config.Buildable) (lane : Lane)
    (tasks : List Task) (watch : Bool) (course : Course) (world : World) :
    takesOf (runStory client config lane tasks watch course world) =
      runOrder client config lane tasks watch course world := by
  rw [runStory, takesOf_append,
    takesOf_storyAlong_of_none (fun w => resultAt_openEvents course lane tasks w),
    takesOf_storyAlong_await, List.nil_append]
  simp only [runOrder, openPool_eq client hbuild lane tasks watch course world]

/-- What the story of a run tells whose units have all been collected: each has ended, and has been
collected after that; and where no two of them end one right after the other, they are collected
in the order in which they end. -/
theorem story_of_run {config : Config} (hbuild : config.Buildable) (lane : Lane)
    (tasks : List Task) (watch : Bool) (course : Course) (world : World) {order : List Nat}
    (horder : runOrder client config lane tasks watch course world = order)
    (hall : order.Perm (List.range tasks.length)) :
    let story := runStory client config lane tasks watch course world
    takesOf story = order ∧ (endsOf story).Perm (List.range tasks.length) ∧
      (∀ i ∈ order, [.ended i, .collected i].Sublist story) ∧
      (Prompt story → order = endsOf story) := by
  intro story
  have hrecorded := recorded_run client config lane tasks watch course world
  have htakes : takesOf story = order :=
    (takesOf_runStory hbuild lane tasks watch course world).trans horder
  have hsize := (steps_await (n := tasks.length) client course
    (opened client config lane tasks watch course world, (startWatch watch world).2)).invariant
      (P := fun w => w.1.jobs.size = tasks.length) (fun hstep hw => hstep.size.trans hw)
      (size_opened client config lane tasks watch course world)
  have hends : (endsOf story).Perm (List.range tasks.length) := by
    refine (List.perm_ext_iff_of_nodup hrecorded.sound.nodup List.nodup_range).mpr fun i => ?_
    constructor
    · intro hi
      rw [List.mem_range, ← hsize]
      exact lt_of_hasEnded ((hrecorded.ends i).mp hi)
    · intro hi
      exact hrecorded.sound.takes_subset i (htakes ▸ hall.mem_iff.mpr hi)
  have hbefore : ∀ i ∈ order, [.ended i, .collected i].Sublist story := fun i hi =>
    hrecorded.sound.ended_before i (htakes ▸ hi)
  refine ⟨htakes, hends, hbefore, fun hprompt => ?_⟩
  rcases hrecorded.sound.takes_of_prompt hprompt with hsame | ⟨i, hlonger, -⟩
  · exact htakes.symm.trans hsame
  · -- One more has ended than has been collected, but both are all.
    have hlength := congrArg List.length hlonger
    rw [hends.length_eq, List.length_append, htakes, hall.length_eq] at hlength
    simp at hlength

end Takes

end BenchRig.Pool
