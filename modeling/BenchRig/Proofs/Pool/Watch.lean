import BenchRig.Proofs.Memory.Sampling
import BenchRig.Proofs.Pool.Fetching
import BenchRig.Proofs.Pool.Replay

/-!
# The peak of a run

Blocks come and go between the moves of units and the collections, in any way. What is done with
them over a run is a history of its own, and nothing else moves the counters. So a run that is
watched reports the greatest number of live bytes over its history: nothing but the start of the
sampler takes the peak back, and the last sample is taken when the run is over.
-/

namespace BenchRig.Pool

open Memory (Action Counters Heap Sampler)

/-- What an event does with a block of memory. -/
def Event.action? : Event → Option Action
  | .memory a => if a.onBlock then some a else none
  | _ => none

/-- What is done with blocks of memory over a run of `n` units, in order. -/
def Course.actions (course : Course) (n : Nat) : List Action :=
  ((List.range (n + 1)).flatMap course.early ++ course.late).filterMap Event.action?

/-! ## One event -/

/-- What is known of a watched pool after the actions `done` on blocks, from the heap `h` on: where
blocks are counted, its heap is the one that these lead to, and elsewhere nothing has changed; and
its sampler has seen no more than the peak. -/
structure Gauged (h : Heap) (tracked : Bool) (done : List Action) (w : Watched) : Prop where
  tracking : w.1.world.tracked = tracked
  heap : w.1.world.heap = if tracked then h.run done else h
  sampled : ∃ s, w.2 = some s ∧ s.maxPeak ≤ w.1.world.heap.counters.peak

section Gauged

variable {client : Client} {h : Heap} {tracked : Bool} {done : List Action} {w w' : Watched}

theorem maxPeak_observe_le {s : Sampler} {c : Counters} (h : s.maxPeak ≤ c.peak) :
    (s.observe c).maxPeak = c.peak :=
  Memory.max_eq_of_le h

/-- A move does nothing with memory. -/
theorem world_play (client : Client) (m : Machine) (v : Move) :
    (m.play client v).world.heap = m.world.heap ∧
      (m.play client v).world.tracked = m.world.tracked := by
  unfold Machine.play
  cases hgo : m.go client v with
  | none => exact ⟨rfl, rfl⟩
  | some m' =>
    obtain ⟨i, lane, p, p', hmoved⟩ := Machine.moved_of_go hgo
    have hacts := hmoved.acts
    rw [Option.getD_some]
    generalize m'.world = world' at hacts
    cases hacts <;> exact ⟨rfl, rfl⟩

/-- An action on a block never takes the peak back. -/
theorem restartsPeak_of_onBlock {a : Action} (ha : a.onBlock) : a.restartsPeak = false := by
  cases a <;> first | rfl | cases ha

/-- A moment at which memory stays as it is. -/
theorem Gauged.still (hg : Gauged h tracked done w)
    (hheap : w'.1.world.heap = w.1.world.heap)
    (htracking : w'.1.world.tracked = w.1.world.tracked)
    (hs : w'.2 = w.2 ∨ w'.2 = w.2.map fun s => s.observe w.1.world.heap.counters) :
    Gauged h tracked done w' := by
  obtain ⟨s, hsampler, hle⟩ := hg.sampled
  refine ⟨htracking.trans hg.tracking, hheap.trans hg.heap, ?_⟩
  rw [hheap]
  rcases hs with hs | hs
  · exact ⟨s, hs.trans hsampler, hle⟩
  · refine ⟨s.observe w.1.world.heap.counters, by rw [hs, hsampler, Option.map_some], ?_⟩
    exact UInt64.le_of_eq (maxPeak_observe_le hle)

/-- A use of memory is the next action, if it is one on a block. -/
theorem Gauged.use (hg : Gauged h tracked done w) (a : Action) :
    Gauged h tracked (done ++ (Event.action? (.memory a)).toList) (w.1.use a, w.2) := by
  obtain ⟨s, hsampler, hle⟩ := hg.sampled
  have hheap := hg.heap
  by_cases hcounts : w.1.world.tracked ∧ a.onBlock
  · obtain ⟨htracked, hblock⟩ := hcounts
    obtain rfl : tracked = true := hg.tracking.symm.trans htracked
    have hworld : (w.1.use a).world.heap = (w.1.world.heap.step a).1 := by
      simp [Machine.use, World.use, htracked, hblock]
    refine ⟨(w.1.world.use_tracked a).trans hg.tracking, ?_, s, hsampler, ?_⟩
    · rw [hworld, hheap]
      simp [Event.action?, hblock, Heap.run_concat]
    · rw [hworld]
      exact UInt64.le_trans hle
        (w.1.world.heap.peak_step_le (restartsPeak_of_onBlock hblock))
  · have hworld : (w.1.use a).world.heap = w.1.world.heap := by
      simp only [Machine.use, World.use, if_neg hcounts]
    refine ⟨(w.1.world.use_tracked a).trans hg.tracking, ?_, s, hsampler, hworld ▸ hle⟩
    rw [hworld, hheap]
    cases tracked with
    | false => rfl
    | true =>
      have hblock : a.onBlock = false := by simpa [hg.tracking] using hcounts
      simp [Event.action?, hblock]

theorem Gauged.collectOne (hg : Gauged h tracked done w) (n i : Nat) :
    Gauged h tracked done (collectOne n w i) := by
  cases hcollect : w.1.collect? i with
  | none => simpa [Pool.collectOne, hcollect] using hg
  | some c =>
    obtain ⟨m, e⟩ := c
    obtain ⟨lane, hc⟩ := Machine.collected_of_collect? hcollect
    have hheap : m.world.heap = w.1.world.heap := by rw [hc.world]
    have htracking : m.world.tracked = w.1.world.tracked := by rw [hc.world]
    cases e with
    | ok r =>
      simp only [Pool.collectOne, hcollect]
      exact hg.still hheap htracking (.inr (by rw [hheap]))
    | error message =>
      simp only [Pool.collectOne, hcollect]
      exact hg.still hheap htracking (.inl rfl)

/-- Every event adds to the history what it does with a block. -/
theorem Gauged.occur (hg : Gauged h tracked done w) (n : Nat) (e : Event) :
    Gauged h tracked (done ++ e.action?.toList) (occur client n w e) := by
  have hnone : ∀ {w'}, Gauged h tracked done w' → Gauged h tracked (done ++ []) w' :=
    fun hw => by rwa [List.append_nil]
  cases e with
  | submit lane t => exact hnone (hg.still rfl rfl (.inl rfl))
  | move v =>
    obtain ⟨hheap, htracking⟩ := world_play client w.1 v
    have hplayed : Gauged h tracked done (w.1.play client v, w.2) :=
      hg.still hheap htracking (.inl rfl)
    exact hnone hplayed
  | memory a => exact hg.use a
  | collect i => exact hnone (hg.collectOne n i)

theorem Gauged.along (hg : Gauged h tracked done w) (client : Client) (n : Nat)
    (es : List Event) :
    Gauged h tracked (done ++ es.filterMap Event.action?)
      (es.foldl (Pool.occur client n) w) := by
  induction es generalizing w done with
  | nil => simpa using hg
  | cons e es ih =>
    have hhead : done ++ (e :: es).filterMap Event.action? =
        (done ++ e.action?.toList) ++ es.filterMap Event.action? := by
      cases he : e.action? <;> simp [he]
    rw [hhead]
    exact ih (hg.occur n e)

end Gauged

/-! ## The events of a run -/

section Events

variable {client : Client} {course : Course}

theorem actions_filter {p : Event → Bool} (hp : ∀ e, e.action?.isSome → p e) (es : List Event) :
    (es.filter p).filterMap Event.action? = es.filterMap Event.action? := by
  induction es with
  | nil => rfl
  | cons e es ih =>
    by_cases he : p e
    · rw [List.filter_cons_of_pos he, List.filterMap_cons, List.filterMap_cons, ih]
    · have hnone : e.action? = none := by
        cases haction : e.action? with
        | none => rfl
        | some a => exact absurd (hp e (by simp [haction])) he
      rw [List.filter_cons_of_neg he, List.filterMap_cons, hnone, ih]

theorem actions_free (es : List Event) :
    (es.filter Event.isFree).filterMap Event.action? = es.filterMap Event.action? :=
  actions_filter (fun e he => by cases e <;> first | rfl | cases he) es

/-- What is done with blocks while tasks are submitted: what the course tells to happen after each
of them. -/
theorem actions_submissions (early : Nat → List Event) (lane : Lane) (tasks : List Task) (k : Nat) :
    (submissions early lane k tasks).filterMap Event.action? =
      ((List.range' (k + 1) tasks.length).flatMap early).filterMap Event.action? := by
  induction tasks generalizing k with
  | nil => rfl
  | cons t tasks ih =>
    have hsubmit : Event.action? (.submit lane t) = none := rfl
    rw [submissions, List.filterMap_cons, hsubmit, List.filterMap_append, actions_free, ih,
      List.length_cons, List.range'_succ, List.flatMap_cons, List.filterMap_append]

/-- Along a whole run it is what the course does with blocks. -/
theorem actions_openEvents (course : Course) (lane : Lane) (tasks : List Task) :
    (openEvents course lane tasks).filterMap Event.action? =
      ((List.range (tasks.length + 1)).flatMap course.early).filterMap Event.action? := by
  rw [openEvents, List.filterMap_append, actions_free, actions_submissions, List.range_eq_range',
    List.range'_succ, List.flatMap_cons, List.filterMap_append]

theorem actions_awaitEvents (course : Course) (n : Nat) (w : Watched) :
    (awaitEvents client course n w).filterMap Event.action? =
      course.late.filterMap Event.action? := by
  have hmoves : ∀ vs : List Move, (vs.map Event.move).filterMap Event.action? = [] := fun vs => by
    simp [List.filterMap_map, Function.comp_def, Event.action?]
  have hcollects : ((List.range n).map Event.collect).filterMap Event.action? = [] := by
    simp [List.filterMap_map, Function.comp_def, Event.action?]
  rw [awaitEvents, List.filterMap_append, List.filterMap_append, hmoves, hcollects,
    actions_filter fun e he => by cases e <;> first | rfl | cases he]
  simp

end Events

/-! ## Runs -/

section Runs

variable {client : Client} {config : Config} {lane : Lane} {tasks : List Task} {watch : Bool}
  {course : Course} {world : World} {report : Report}

theorem peak_of_conclude {timings : Timings} {w : Watched} {report : Report}
    (h : (conclude timings w).outcome = .ok report) :
    report.peak = w.2.map fun s => (s.observe w.1.world.heap.counters).maxPeak := by
  obtain ⟨m, sampler⟩ := w
  simp only [conclude] at h
  split at h
  · cases h
  · obtain rfl := Except.ok.inj (Run.outcome_of_check h).1
    rfl

theorem runTasks_outcome
    (h : (runTasks client config lane tasks watch course world).outcome = .ok report) :
    (conclude course.timings (await client course tasks.length
      (opened client config lane tasks watch course world,
        (startWatch watch world).2))).outcome = .ok report := by
  have hbuildable := (buildable_of_runTasks h).1
  simp only [runTasks, openPool_eq client hbuildable lane tasks watch course world] at h
  exact h

/-- A run that is not watched reports no peak. -/
theorem peak_of_unwatched
    (h : (runTasks client config lane tasks false course world).outcome = .ok report) :
    report.peak = none := by
  have hpeak := peak_of_conclude (runTasks_outcome h)
  have hnone := isSome_await client course tasks.length
    (opened client config lane tasks false course world, none)
  rw [hpeak]
  exact Option.map_eq_none_iff.mpr
    (Option.isNone_iff_eq_none.mp (Option.isSome_eq_false_iff.mp hnone))

/-- The heap of a run that is watched, when its sampler has been started. -/
def startedHeap (world : World) : Heap := (startWatch true world).1.heap

theorem gauged_created (config : Config) (world : World) :
    Gauged (startedHeap world) world.tracked []
      (created config true world, (startWatch true world).2) := by
  refine ⟨rfl, ?_, _, rfl, UInt64.le_of_eq (Memory.max_eq_of_le UInt64.zero_le)⟩
  cases world.tracked <;> rfl

/-- A run that is watched reports the peak of its heap: where blocks are counted, that is the peak
after all that is done with them. -/
theorem peak_of_watched
    (h : (runTasks client config lane tasks true course world).outcome = .ok report) :
    report.peak = some (if world.tracked then
      ((startedHeap world).run (course.actions tasks.length)).counters.peak
      else (startedHeap world).counters.peak) := by
  set n := tasks.length with hn
  set sampler := (startWatch true world).2
  have hopen := (gauged_created config world).along client n (openEvents course lane tasks)
  rw [foldl_openEvents client n course lane tasks rfl, List.nil_append,
    actions_openEvents] at hopen
  have hopened : Gauged (startedHeap world) world.tracked _
      (opened client config lane tasks true course world, sampler) :=
    ⟨hopen.tracking, hopen.heap, hopen.sampled⟩
  have hend := hopened.along client n (awaitEvents client course n
    (opened client config lane tasks true course world, sampler))
  rw [foldl_awaitEvents, actions_awaitEvents, ← List.filterMap_append, ← hn] at hend
  -- The last sample finds the peak.
  obtain ⟨s, hs, hle⟩ := hend.sampled
  have hheap := hend.heap
  rw [peak_of_conclude (runTasks_outcome h), hs, Option.map_some, maxPeak_observe_le hle, hheap,
    apply_ite Heap.counters, apply_ite Counters.peak]
  rfl

/-- What a course does with blocks takes no peak back. -/
theorem restartsPeak_of_mem_actions {n : Nat} {a : Action} (ha : a ∈ course.actions n) :
    a.restartsPeak = false := by
  obtain ⟨e, -, he⟩ := List.mem_filterMap.mp ha
  refine restartsPeak_of_onBlock ?_
  cases e with
  | memory b =>
    simp only [Event.action?] at he
    split_ifs at he with hb
    exact Option.some.inj he ▸ hb
  | _ => cases he

/-- A watched run in a process that has done something with blocks before: it reports the greatest
number of live bytes over what it does with them itself. -/
theorem peak_isGreatest {before : List Action} (hheap : world.heap = Heap.run {} before)
    (htracked : world.tracked = true)
    (h : (runTasks client config lane tasks true course world).outcome = .ok report)
    (fits : Heap.Fits {} (before ++ .start :: course.actions tasks.length)) :
    ∃ peak, report.peak = some peak ∧
      IsGreatest ((Heap.run {} (before ++ [.start])).levels (course.actions tasks.length))
        peak.toNat := by
  have hpeak := peak_of_watched h
  rw [if_pos htracked] at hpeak
  refine ⟨_, hpeak, ?_⟩
  have hstart : (startedHeap world).Agree (Heap.run {} (before ++ [.start])) := by
    rw [Heap.run_concat, ← hheap]
    exact ⟨rfl, rfl⟩
  have hsplit : Heap.run {} (before ++ .start :: course.actions tasks.length) =
      (Heap.run {} (before ++ [.start])).run (course.actions tasks.length) := by
    rw [← Heap.run_append, List.append_assoc, List.singleton_append]
  have hgreatest := Memory.peak_isGreatest_levels rfl
    (fun a ha => restartsPeak_of_mem_actions ha) fits
  rwa [hsplit, ← (hstart.run _).2] at hgreatest

end Runs

/-- A plan reports what its run reports. -/
theorem runTasks_of_fetch {processors : UInt32} {tracking : Bool} {client : Client} {watch : Bool}
    {course : Course} {plan : FetchPlan} {world : World} {launch : Launch} {report : Report}
    (h : (fetch processors tracking client watch course plan world launch).outcome = .ok report) :
    (runTasks client (.io processors plan.workers) .permit (fetchTasks plan) watch course
      (warned tracking watch world) launch).outcome = .ok report := by
  simp only [fetch] at h
  cases hplan : plan.validate with
  | error f =>
    rw [hplan] at h
    cases h
  | ok u =>
    rw [hplan] at h
    set run := (runTasks client (.io processors plan.workers) .permit (fetchTasks plan) watch course
      (warned tracking watch world) launch).check fun r => checkAttempts plan.attempts r.results
    have hchecked : run.outcome = .ok report := by
      rcases run with ⟨w, f | r⟩
      · exact h
      · exact h
    exact (Run.outcome_of_check hchecked).1

/-- A sampler that is started after any history of blocks, and after which the peak is not started
again, knows the greatest number of live bytes from its start to its last sample, wherever it took
the samples before. So a run of a plan that is watched, whatever course it takes, reports the
greatest number of live bytes over all that is done with blocks in it, from the blocks on that the
process had before; where nothing counts them it reports zero, and where it is not watched it
reports none. The live bytes must fit into a word. -/
theorem peak_of_watching :
    (∀ before after : List Action, (∀ a ∈ after, a.restartsPeak = false) →
      Heap.Fits {} (before ++ .start :: after) →
      ∃ s, (Heap.run {} (before ++ .start :: after)).sampler = some s ∧
        IsGreatest ((Heap.run {} (before ++ [.start])).levels (Memory.untilSample after))
          s.maxPeak.toNat ∧
        s.samples = after.count .sample + 1 ∧
        ∀ after' : List Action, (∀ a ∈ after', a.restartsPeak = false) →
          Memory.withoutSamples (Memory.untilSample after') =
            Memory.withoutSamples (Memory.untilSample after) →
          (Heap.run {} (before ++ .start :: after')).sampler.map (·.maxPeak) = some s.maxPeak) ∧
    ∀ (processors : UInt32) (client : Client) (course : Course) (plan : FetchPlan) (world : World)
      (report : Report),
      (∀ tracking, (fetch processors tracking client false course plan world).outcome =
          .ok report → report.peak = none) ∧
      ((fetch processors false client true course plan world).outcome = .ok report →
        report.peak = some 0) ∧
      ∀ before : List Action, world.heap = Heap.run {} before →
        (fetch processors true client true course plan world).outcome = .ok report →
        let after := course.actions plan.workers.toNat
        Heap.Fits {} (before ++ .start :: after) →
        ∃ peak, report.peak = some peak ∧
          IsGreatest ((Heap.run {} (before ++ [.start])).levels after) peak.toNat := by
  constructor
  · intro before after hkeep fits
    obtain ⟨s, hs, -, hsamples⟩ := Memory.sampler_of_start before hkeep
    refine ⟨s, hs, Memory.maxPeak_isGreatest hkeep fits hs, hsamples, ?_⟩
    intro after' hkeep' hsame
    exact Memory.maxPeak_of_withoutSamples before hkeep hkeep' hsame hs
  · intro processors client course plan world report
    refine ⟨fun tracking h => peak_of_unwatched (runTasks_of_fetch h), fun h => ?_, ?_⟩
    · exact peak_of_watched (runTasks_of_fetch h)
    · intro before hheap h after fits
      have hafter : after = course.actions (fetchTasks plan).length := by
        rw [length_fetchTasks]
      rw [hafter] at fits ⊢
      have hbefore : (warned true true world).heap = Heap.run {} before := hheap
      have htracked : (warned true true world).tracked = true := rfl
      exact peak_isGreatest hbefore htracked (runTasks_of_fetch h) fits

/-- A block that comes and goes before a sample, and one that comes after it. -/
def spike : List Action := [.allocate 100 true, .release 1, .sample, .allocate 500 true]

/-- Two workers that take blocks during their calls, of which the first grows while both are live,
and of which one is released only when everything has been collected. -/
def overlap : Course where
  late := [.move (.launch 0), .move (.launch 1), .move (.advance 0), .memory (.allocate 64 true),
    .move (.advance 1), .memory (.allocate 64 true), .memory (.resize 1 200 true),
    .move (.answer 0), .memory (.release 2), .move (.advance 0), .collect 0, .move (.answer 1),
    .move (.advance 1), .collect 1, .memory (.release 1)]

theorem peak_of_overlap :
    (∃ s, (Heap.run {} ([.allocate 40 true] ++ .start :: spike)).sampler = some s ∧
        s.maxPeak.toNat ∈ (Heap.run {} [.allocate 40 true, .start]).levels
          [.allocate 100 true, .release 1, .sample] ∧ s.samples = 2) ∧
      ∃ report peak, (fetch 1 true (fun _ => .reply (.ok 200)) true overlap
          { workers := 2, attempts := 1, endpoint := "http://[::1]" }
          { heap := Heap.run {} [.allocate 40 true] }).outcome = .ok report ∧
        report.peak = some peak ∧ 304 ≤ peak.toNat := by
  obtain ⟨hsampler, hfetch⟩ := peak_of_watching
  constructor
  · obtain ⟨s, hs, hgreatest, hsamples, -⟩ :=
      hsampler [.allocate 40 true] spike (by decide) (by decide)
    exact ⟨s, hs, hgreatest.1, hsamples⟩
  · obtain ⟨report, hreport⟩ : ∃ report, (fetch 1 true (fun _ => .reply (.ok 200)) true overlap
        { workers := 2, attempts := 1, endpoint := "http://[::1]" }
        { heap := Heap.run {} [.allocate 40 true] }).outcome = .ok report :=
      ⟨_, rfl⟩
    obtain ⟨peak, hpeak, hgreatest⟩ := (hfetch 1 (fun _ => .reply (.ok 200)) overlap
      { workers := 2, attempts := 1, endpoint := "http://[::1]" } _ report).2.2
        [.allocate 40 true] rfl hreport (by decide)
    exact ⟨report, peak, hreport, hpeak, hgreatest.2 ⟨3, by decide, by decide⟩⟩

end BenchRig.Pool
