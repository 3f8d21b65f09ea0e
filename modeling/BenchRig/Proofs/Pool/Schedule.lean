import BenchRig.Proofs.Pool.Run

/-!
# A course for every order

Units that only return or panic can be collected in any order: a course that lets one unit after
another run, and collects each at once, follows the order up to the first panic.
-/

namespace BenchRig.Pool

open Machine (Moved Collected)

/-- The task of a unit that returns or panics, and does nothing else. -/
def Task.ending : Ending → Task
  | .ok r => .done r
  | .error message => .panic message

/-- What the unit at place `i` does in such a course. -/
def Course.turn (i : Nat) : List Event :=
  [.move (.launch i), .move (.advance i), .collect i]

/-- The course in which one unit after another runs and is collected, in the given order. -/
def Course.inOrder (order : List Nat) : Course := { late := order.flatMap Course.turn }

section Along

variable {client : Client} {n : Nat}

theorem resultsAlong_append (w : Watched) (es es' : List Event) :
    resultsAlong client n w (es ++ es') =
      resultsAlong client n w es ++ resultsAlong client n (es.foldl (happen client n) w) es' := by
  induction es generalizing w with
  | nil => rfl
  | cons e es ih => simp only [List.cons_append, resultsAlong, ih, List.foldl_cons,
      List.append_assoc]

theorem panicked_happen {w : Watched} (hw : w.1.panicked.isSome) (e : Event) :
    (happen client n w e).1.panicked.isSome :=
  (steps_happen client w e).invariant (P := fun w => w.1.panicked.isSome) Step.panicked hw

/-- Once a panic has been collected, no result is. -/
theorem resultsAlong_of_panicked {w : Watched} (hw : w.1.panicked.isSome) (es : List Event) :
    resultsAlong client n w es = [] := by
  induction es generalizing w with
  | nil => rfl
  | cons e es ih =>
    have hnone : resultAt w e = none := by
      cases e with
      | collect i => simp [resultAt, Machine.collect?, hw]
      | _ => rfl
    rw [resultsAlong, hnone, ih (panicked_happen hw e)]
    rfl

/-- Neither moves nor uses of memory collect anything. -/
theorem Stirred.panicked {m m' : Machine} (h : Stirred client m m') : m'.panicked = m.panicked := by
  cases h with
  | act h => exact h.panicked
  | use a => rfl

theorem Plays.panicked {m m' : Machine} (h : Plays client m m') : m'.panicked = m.panicked :=
  h.invariant (P := fun m₁ => m₁.panicked = m.panicked)
    (fun hstir hm => hstir.panicked.trans hm) rfl

end Along

/-! ## Turns -/

/-- Before the turns of the units outside `done`: these wait, those at `done` have been collected,
and nothing has panicked. -/
structure Staged (limit : Lane → Nat) (lane : Lane) (endings : List Ending) (done : List Nat)
    (m : Machine) : Prop where
  balanced : m.Balanced limit
  calm : m.panicked = none
  size : m.jobs.size = endings.length
  waiting : ∀ i ∉ done, ∀ e, endings[i]? = some e →
    m.jobs[i]? = some ⟨lane, .waiting (.ending e)⟩
  done : ∀ i ∈ done, ∀ job, m.jobs[i]? = some job → job.phase = .collected

section Turns

variable (client : Client) {limit : Lane → Nat} {lane : Lane} {endings : List Ending}
  {done : List Nat} {n i : Nat} {e : Ending}

theorem Staged.idle {m : Machine} (h : Staged limit lane endings done m) : m.Idle := by
  intro i job hjob
  by_cases hi : i ∈ done
  · rw [h.done i hi job hjob]
    rfl
  · have hlt : i < endings.length := h.size ▸ (Array.getElem?_eq_some_iff.mp hjob).1
    have hwaits := h.waiting i hi _ (List.getElem?_eq_getElem hlt)
    rw [← Option.some.inj (hwaits.symm.trans hjob)]
    rfl

/-- In its turn a unit that waits comes to its end, and nothing else changes. -/
theorem Staged.ends {m : Machine} (hlimit : ∀ ℓ, 0 < limit ℓ)
    (h : Staged limit lane endings done m) (hi : i ∉ done) (he : endings[i]? = some e) :
    ((m.play client (.launch i)).play client (.advance i)).jobs =
      m.jobs.setIfInBounds i ⟨lane, .ended e⟩ := by
  have hwaits := h.waiting i hi e he
  have hfree := h.balanced.free_pos hlimit h.idle lane
  have hlaunch := Machine.play_launch_jobs client hwaits hfree
  have hactive := Machine.job_of_set hwaits hlaunch
  cases e with
  | ok r =>
    rw [Machine.play_advance_jobs_done client hactive, hlaunch, Array.setIfInBounds_setIfInBounds]
  | error message =>
    rw [Machine.play_advance_jobs_panic client hactive, hlaunch, Array.setIfInBounds_setIfInBounds]

/-- A unit that has ended is collected when that is asked for, unless something has panicked. -/
theorem collect?_of_ended {m : Machine} (hcalm : m.panicked = none)
    (hjob : m.jobs[i]? = some ⟨lane, .ended e⟩) : ∃ m', m.collect? i = some (m', e) := by
  cases e with
  | ok r => exact ⟨_, by simp [Machine.collect?, hcalm, hjob]; rfl⟩
  | error message => exact ⟨_, by simp [Machine.collect?, hcalm, hjob]; rfl⟩

/-- After the turn of a unit that returns, its result has been collected; after the turn of one that
panics, its panic has. -/
theorem Staged.turn {w : Watched} (hlimit : ∀ ℓ, 0 < limit ℓ)
    (h : Staged limit lane endings done w.1) (hi : i ∉ done) (he : endings[i]? = some e) :
    resultsAlong client n w (Course.turn i) = (if e.isOk then [i] else []) ∧
      (if e.isOk then
        Staged limit lane endings (i :: done) ((Course.turn i).foldl (happen client n) w).1
      else ((Course.turn i).foldl (happen client n) w).1.panicked.isSome) := by
  have hplays : Plays client w.1 ((w.1.play client (.launch i)).play client (.advance i)) :=
    (plays_play client w.1 (.launch i)).trans (plays_play client _ (.advance i))
  have hjobs := h.ends client hlimit hi he
  have hended := Machine.job_of_set (h.waiting i hi e he) hjobs
  have hcalm := hplays.panicked.trans h.calm
  have hbalanced := hplays.balanced h.balanced
  have hturn : (Course.turn i).foldl (happen client n) w =
      collectOne n ((w.1.play client (.launch i)).play client (.advance i), w.2) i := rfl
  have halong : resultsAlong client n w (Course.turn i) =
      (resultAt ((w.1.play client (.launch i)).play client (.advance i), w.2)
        (.collect i)).toList :=
    List.append_nil _
  rw [hturn, halong]
  generalize (w.1.play client (.launch i)).play client (.advance i) = m at *
  obtain ⟨m', hcollect⟩ := collect?_of_ended hcalm hended
  obtain ⟨lane', hc⟩ := Machine.collected_of_collect? hcollect
  have hothers : ∀ j, j ≠ i → m'.jobs[j]? = w.1.jobs[j]? := fun j hj => by
    rw [Machine.job_of_set_ne hc.jobs hj, Machine.job_of_set_ne hjobs hj]
  cases e with
  | error message =>
    refine ⟨by simp [resultAt, hcollect, Except.isOk, Except.toBool], ?_⟩
    simp [collectOne, hcollect, hc.panicked, Except.isOk, Except.toBool]
  | ok r =>
    refine ⟨by simp [resultAt, hcollect, Except.isOk, Except.toBool], ?_⟩
    simp only [collectOne, hcollect, Except.isOk, Except.toBool, if_true]
    refine
      { balanced := (hbalanced.collected hc).tell _
        calm := hc.panicked
        size := by simp [hc.jobs, hjobs, h.size]
        waiting := fun j hj e hje => ?_
        done := fun j hj job hjob => ?_ }
    · rw [List.mem_cons, not_or] at hj
      exact (hothers j hj.1).trans (h.waiting j hj.2 e hje)
    · by_cases hji : j = i
      · subst hji
        rw [← Option.some.inj ((Machine.job_of_set hended hc.jobs).symm.trans hjob)]
      · exact h.done j (List.mem_of_ne_of_mem hji hj) job (hothers j hji ▸ hjob)

/-- The turns of units collect their results up to the first panic. -/
theorem Staged.turns {w : Watched} {order : List Nat} (hlimit : ∀ ℓ, 0 < limit ℓ)
    (h : Staged limit lane endings done w.1) (hnodup : order.Nodup)
    (hfresh : ∀ i ∈ order, i ∉ done ∧ i < endings.length) :
    resultsAlong client n w (order.flatMap Course.turn) =
        order.takeWhile (fun i => endings[i]?.any Except.isOk) ∧
      (((order.flatMap Course.turn).foldl (happen client n) w).1.panicked.isSome ∨
        order.takeWhile (fun i => endings[i]?.any Except.isOk) = order) := by
  induction order generalizing w done with
  | nil => exact ⟨rfl, .inr rfl⟩
  | cons i order ih =>
    obtain ⟨hnotin, hnodup⟩ := List.nodup_cons.mp hnodup
    obtain ⟨⟨hi, hlt⟩, hfresh⟩ := List.forall_mem_cons.mp hfresh
    have he := List.getElem?_eq_getElem hlt
    obtain ⟨halong, hafter⟩ := h.turn client (n := n) hlimit hi he
    rw [List.flatMap_cons, resultsAlong_append, List.foldl_append, halong, List.takeWhile_cons, he]
    by_cases hok : endings[i].isOk
    · rw [if_pos hok] at hafter
      obtain ⟨hrest, hend⟩ := ih hafter hnodup fun j hj =>
        ⟨fun hmem => (List.mem_cons.mp hmem).elim (fun hji => hnotin (hji ▸ hj)) (hfresh j hj).1,
          (hfresh j hj).2⟩
      simp only [Option.any_some, hok, if_true, hrest, List.singleton_append, true_and]
      exact hend.imp_right (congrArg (i :: ·))
    · rw [if_neg hok] at hafter
      simp only [Option.any_some, hok, resultsAlong_of_panicked hafter]
      refine ⟨rfl, .inl ?_⟩
      exact (Steps.foldl (steps_happen client) _ _).invariant (P := fun w => w.1.panicked.isSome)
        Step.panicked hafter

/-- After the turns of all units, what is still asked for follows; nothing does after a panic. -/
theorem Staged.await {w : Watched} {order : List Nat} (hlimit : ∀ ℓ, 0 < limit ℓ)
    (h : Staged limit lane endings [] w.1) (horder : order.Perm (List.range endings.length)) :
    ∃ rest, awaitOrder client (Course.inOrder order) endings.length w =
        (order.takeWhile fun i => endings[i]?.any Except.isOk) ++ rest ∧
      ((order.takeWhile fun i => endings[i]?.any Except.isOk) = order ∨ rest = []) := by
  obtain ⟨halong, hend⟩ := h.turns client (n := endings.length) hlimit
    (horder.nodup_iff.mpr List.nodup_range)
    fun i hi => ⟨List.not_mem_nil, List.mem_range.mp (horder.mem_iff.mp hi)⟩
  refine ⟨_, congrArg (· ++ _) halong, ?_⟩
  rcases hend with hpanicked | hall
  · refine .inr (resultsAlong_of_panicked ?_ _)
    exact (congrArg Option.isSome (plays_runAll client _).panicked).trans hpanicked
  · exact .inl hall

end Turns

/-! ## Runs -/

section Runs

variable (client : Client) {config : Config}

/-- Where no unit acts before the submission is over, all units wait after it. -/
theorem submitAll_jobs (lane : Lane) (tasks : List Task) (m : Machine) :
    (m.submitAll client (fun _ => []) lane tasks).jobs =
      m.jobs ++ (tasks.map fun t => (⟨lane, .waiting t⟩ : Job)).toArray := by
  induction tasks generalizing m with
  | nil => simp [Machine.submitAll]
  | cons t tasks ih =>
    have hrest := ih (m.submit lane t)
    simp only [Machine.submitAll, List.foldl_cons, List.foldl_nil] at hrest ⊢
    rw [hrest]
    exact Array.ext' (by simp [Machine.submit])

/-- A pool that has just been opened is staged. -/
theorem staged_open (hbuild : config.Buildable) (lane : Lane) (endings : List Ending)
    (order : List Nat) (world : World) :
    ∃ m, openPool client config lane (endings.map Task.ending) (Course.inOrder order) world
        .started = .ok m ∧ Staged (Machine.start config world).free lane endings [] m := by
  have hkept := submitAll_invariant client lane
    (P := fun _ m => m.Balanced (Machine.start config world).free ∧ m.panicked = none)
    (fun t h => ⟨h.1.submit lane t, h.2⟩)
    (fun hstir h => ⟨h.1.stirred hstir, hstir.panicked.trans h.2⟩)
    (fun _ => []) (endings.map Task.ending)
    (m := (Machine.start config world).tell (.poolCreated config.kind config.capacity.toNat))
    ⟨(balanced_start config world).tell _, rfl⟩
  have hjobs := submitAll_jobs client lane (endings.map Task.ending)
    ((Machine.start config world).tell (.poolCreated config.kind config.capacity.toNat))
  refine ⟨_, by rw [openPool, hbuild.build]; rfl, ?_⟩
  refine
    { balanced := hkept.1.tell _
      calm := hkept.2
      size := ?_
      waiting := fun i _ e he => ?_
      done := by simp }
  · rw [Machine.tell_jobs]
    exact (congrArg Array.size hjobs).trans (by simp [Machine.start])
  · rw [Machine.tell_jobs]
    refine (congrArg (·[i]?) hjobs).trans ?_
    simp [Machine.start, he]

/-- For every order there is a course in which the results are collected in this order, up to the
first panic. -/
theorem runOrder_inOrder (hbuild : config.Buildable) (lane : Lane) (endings : List Ending)
    (watch : Bool) (world : World) {order : List Nat}
    (horder : order.Perm (List.range endings.length)) :
    runOrder client config lane (endings.map Task.ending) watch (Course.inOrder order) world =
      order.takeWhile fun i => endings[i]?.any Except.isOk := by
  obtain ⟨m', early, late, hfinished, -⟩ := runTasks_spec client hbuild lane
    (endings.map Task.ending) watch (Course.inOrder order) world
  have hnodup := hfinished.traced.nodup
  have hplaces : ∀ i ∈ runOrder client config lane (endings.map Task.ending) watch
      (Course.inOrder order) world, i ∈ order := fun i hi => by
    have hlt := hfinished.traced.lt_of_mem hi
    rw [List.length_map] at hlt
    exact horder.mem_iff.mpr (List.mem_range.mpr hlt)
  obtain ⟨⟨world', sampler⟩, hwatch⟩ : ∃ p, startWatch watch world = p := ⟨_, rfl⟩
  obtain ⟨m, hopen, hstaged⟩ := staged_open client hbuild lane endings order world'
  obtain ⟨rest, hrest, hend⟩ := Staged.await client (w := (m, sampler))
    (fun ℓ => free_start_pos hbuild world' ℓ) hstaged horder
  have hrun : runOrder client config lane (endings.map Task.ending) watch (Course.inOrder order)
      world = awaitOrder client (Course.inOrder order) endings.length (m, sampler) := by
    simp only [runOrder, hwatch, hopen, List.length_map]
  rw [hrun, hrest] at hnodup hplaces ⊢
  rcases hend with hall | hnone
  · -- All results have been collected in turn, and none can be collected again.
    rw [hall] at hnodup hplaces
    have hnone : rest = [] := List.eq_nil_iff_forall_not_mem.mpr fun i hi =>
      (List.nodup_append.mp hnodup).2.2 i (hplaces i (List.mem_append_right _ hi)) i hi rfl
    rw [hnone, List.append_nil]
  · rw [hnone, List.append_nil]

end Runs

end BenchRig.Pool
