import BenchRig.Proofs.Pool.Abandonment

/-!
# Plans that are refused

A plan is refused with the first condition that it violates, and then nothing happens at all: the
run ends in the world that it started from.
-/

namespace BenchRig

/-! ## Conditions -/

/-- The conditions on a number of workers that do not hold. -/
inductive WorkersViolate (workers : UInt32) : PlanFault → Prop where
  | noWorkers (h : workers.toNat < 1) : WorkersViolate workers .noWorkers
  | tooManyWorkers (h : 10000 < workers.toNat) : WorkersViolate workers .tooManyWorkers

/-- The conditions on an endpoint that do not hold. -/
inductive EndpointViolates (endpoint : String) : PlanFault → Prop where
  | invalid {fault : Url.Fault} (h : Url.Address.ofText endpoint = .error fault) :
      EndpointViolates endpoint (.invalidEndpoint endpoint fault)
  | scheme {a : Url.Address} (h : Url.Address.ofText endpoint = .ok a)
      (hhttp : a.scheme ≠ "http".toList) (hhttps : a.scheme ≠ "https".toList) :
      EndpointViolates endpoint (.unsupportedScheme endpoint)

/-- The conditions on the time for a request that do not hold. -/
inductive TimeoutViolates (timeout : Duration) : PlanFault → Prop where
  | noTimeout (h : timeout.nanos = 0) : TimeoutViolates timeout .noTimeout
  | tooLong (h : 300 * nanosPerSecond < timeout.nanos) : TimeoutViolates timeout .timeoutTooLong

/-- The conditions on a plan for counting workers that do not hold. -/
inductive SpawnPlan.Violates (plan : SpawnPlan) : PlanFault → Prop where
  | workers {fault : PlanFault} (h : WorkersViolate plan.workers fault) : plan.Violates fault
  | iterations (h : plan.iterations.toNat < 1) : plan.Violates .noIterations

/-- The conditions on a plan for fetching workers that do not hold. -/
inductive FetchPlan.Violates (plan : FetchPlan) : PlanFault → Prop where
  | workers {fault : PlanFault} (h : WorkersViolate plan.workers fault) : plan.Violates fault
  | attempts (h : plan.attempts.toNat < 1) : plan.Violates .noAttempts
  | endpoint {fault : PlanFault} (h : EndpointViolates plan.endpoint fault) : plan.Violates fault
  | timeout {fault : PlanFault} (h : TimeoutViolates plan.timeout fault) : plan.Violates fault

/-- The place of a condition among those of a plan. -/
def PlanFault.rank : PlanFault → Nat
  | noWorkers => 0
  | tooManyWorkers => 1
  | noIterations | noAttempts => 2
  | invalidEndpoint _ _ => 3
  | unsupportedScheme _ => 4
  | noTimeout => 5
  | timeoutTooLong => 6

/-- The first of the violated conditions. -/
def IsFirst (violated : PlanFault → Prop) (fault : PlanFault) : Prop :=
  violated fault ∧ ∀ other, violated other → fault.rank ≤ other.rank

/-! ## Messages -/

namespace PlanFault

/-- How the messages of the conditions begin, in the order of the conditions. -/
def openings : List String :=
  ["Worker count must", "Worker count cann", "Worker iterations", "Requests per work",
    "Invalid delay end", "Delay endpoint mu", "Request timeout m", "Request timeout c"]

theorem prefix_toList_append {front : List Char} {s : String} (h : front <+: s.toList)
    (rest : String) : front <+: (s ++ rest).toList := by
  rw [String.toList_append]
  exact h.trans (List.prefix_append _ _)

/-- The message of a condition begins as the list tells, whatever else it quotes. -/
theorem opening_of_message (f : PlanFault) :
    ∃ o, openings[f.ctorIdx]? = some o ∧ o.toList <+: f.message.toList := by
  cases f with
  | noWorkers => exact ⟨_, rfl, by decide⟩
  | tooManyWorkers =>
    have hfront : "Worker count cann".toList <+: "Worker count cannot exceed ".toList := by decide
    exact ⟨_, rfl, prefix_toList_append hfront _⟩
  | noIterations => exact ⟨_, rfl, by decide⟩
  | noAttempts => exact ⟨_, rfl, by decide⟩
  | invalidEndpoint endpoint fault =>
    have hfront : "Invalid delay end".toList <+: "Invalid delay endpoint '".toList := by decide
    exact ⟨_, rfl, prefix_toList_append (prefix_toList_append
      (prefix_toList_append hfront endpoint) "': ") fault.message⟩
  | unsupportedScheme endpoint =>
    have hfront : "Delay endpoint mu".toList <+:
        "Delay endpoint must use http or https: ".toList := by decide
    exact ⟨_, rfl, prefix_toList_append hfront endpoint⟩
  | noTimeout => exact ⟨_, rfl, by decide⟩
  | timeoutTooLong =>
    have hfront : "Request timeout c".toList <+: "Request timeout cannot exceed ".toList := by
      decide
    exact ⟨_, rfl, prefix_toList_append (prefix_toList_append hfront _) " seconds"⟩

/-- A message tells which condition is violated. -/
theorem ctorIdx_eq_of_message {f g : PlanFault} (h : f.message = g.message) :
    f.ctorIdx = g.ctorIdx := by
  obtain ⟨o, hf, hof⟩ := opening_of_message f
  obtain ⟨o', hg, hog⟩ := opening_of_message g
  rw [← h] at hog
  -- All messages are told apart by as many characters.
  have hlength : ∀ o ∈ openings, o.toList.length = 17 := by decide
  have hsame : o.toList.length = o'.toList.length :=
    (hlength o (List.mem_of_getElem? hf)).trans (hlength o' (List.mem_of_getElem? hg)).symm
  have hfront := List.prefix_of_prefix_length_le hof hog hsame.le
  obtain rfl : o = o' := String.toList_inj.mp (hfront.eq_of_length hsame)
  obtain ⟨hlt, -⟩ := List.getElem?_eq_some_iff.mp hf
  exact (List.getElem?_inj hlt (by decide)).mp (hf.trans hg.symm)

end PlanFault

/-! ## Checks -/

/-- A check that passes only if no condition is violated, and reports the first one otherwise. -/
structure Reports (check : Except PlanFault Unit) (violated : PlanFault → Prop) : Prop where
  ok : check = .ok () → ∀ fault, ¬violated fault
  error : ∀ fault, check = .error fault → IsFirst violated fault

section Checks

variable {check rest : Except PlanFault Unit} {violated later : PlanFault → Prop}

theorem Reports.ok_iff (h : Reports check violated) :
    check = .ok () ↔ ∀ fault, ¬violated fault := by
  refine ⟨h.ok, fun hnone => ?_⟩
  cases hcheck : check with
  | ok => rfl
  | error fault => exact absurd (h.error fault hcheck).1 (hnone fault)

/-- Conditions that are checked later have later places. -/
theorem Reports.bind (h : Reports check violated) (hrest : Reports rest later)
    (hle : ∀ f g, violated f → later g → f.rank ≤ g.rank) :
    Reports (check >>= fun _ => rest) fun f => violated f ∨ later f := by
  cases hcheck : check with
  | error fault =>
    have hfirst := h.error fault hcheck
    constructor
    · intro hok
      cases hok
    · intro other hother
      obtain rfl := Except.error.inj hother
      refine ⟨.inl hfirst.1, fun g hg => ?_⟩
      rcases hg with hg | hg
      · exact hfirst.2 g hg
      · exact hle fault g hfirst.1 hg
  | ok =>
    have hnone := h.ok hcheck
    constructor
    · intro hok fault hviolated
      rcases hviolated with hviolated | hviolated
      · exact hnone fault hviolated
      · exact hrest.ok hok fault hviolated
    · intro fault hfault
      have hfirst := hrest.error fault hfault
      refine ⟨.inr hfirst.1, fun g hg => ?_⟩
      rcases hg with hg | hg
      · exact absurd hg (hnone g)
      · exact hfirst.2 g hg

theorem Reports.congr {violated' : PlanFault → Prop} (h : Reports check violated)
    (hiff : ∀ fault, violated fault ↔ violated' fault) : Reports check violated' := by
  rwa [← funext fun fault => propext (hiff fault)]

theorem reports_ok : Reports (.ok ()) fun _ => False where
  ok _ _ h := h
  error _ h := by cases h

/-- One condition is checked in front of others. -/
theorem Reports.ite {p : Prop} [Decidable p] (h : Reports rest later) (fault : PlanFault)
    (hle : ∀ g, later g → fault.rank ≤ g.rank) :
    Reports (if p then .error fault else rest) fun f => (p ∧ f = fault) ∨ later f := by
  have hone : Reports (if p then .error fault else .ok ()) fun f => p ∧ f = fault := by
    split_ifs with hp
    · constructor
      · intro hok
        cases hok
      · intro other hother
        obtain rfl := Except.error.inj hother
        exact ⟨⟨hp, rfl⟩, fun g hg => hg.2 ▸ Nat.le_refl _⟩
    · exact ⟨fun _ f hf => hp hf.1, fun _ hother => nomatch hother⟩
  have hboth := hone.bind h fun f g hf hg => hf.2 ▸ hle g hg
  split_ifs at hboth ⊢ <;> exact hboth

end Checks

/-! ## The checks of a plan -/

theorem reports_checkWorkers (workers : UInt32) :
    Reports (checkWorkers workers) (WorkersViolate workers) := by
  have hzero : workers = 0 ↔ workers.toNat < 1 := by
    rw [← UInt32.toNat_inj, Nat.lt_one_iff]
    rfl
  refine ((reports_ok.ite .tooManyWorkers (by simp)).ite .noWorkers fun g _ => Nat.zero_le _).congr
    fun fault => ?_
  constructor
  · rintro (⟨h, rfl⟩ | ⟨h, rfl⟩ | h)
    · exact .noWorkers (hzero.mp h)
    · exact .tooManyWorkers h
    · exact h.elim
  · rintro (h | h)
    · exact .inl ⟨hzero.mpr h, rfl⟩
    · exact .inr (.inl ⟨h, rfl⟩)

theorem reports_checkTimeout (timeout : Duration) :
    Reports (checkTimeout timeout) (TimeoutViolates timeout) := by
  refine ((reports_ok.ite .timeoutTooLong (by simp)).ite .noTimeout ?_).congr fun fault => ?_
  · rintro g (⟨-, rfl⟩ | h)
    · exact Nat.le_succ _
    · exact h.elim
  constructor
  · rintro (⟨h, rfl⟩ | ⟨h, rfl⟩ | h)
    · exact .noTimeout h
    · exact .tooLong h
    · exact h.elim
  · rintro (h | h)
    · exact .inl ⟨h, rfl⟩
    · exact .inr (.inl ⟨h, rfl⟩)

theorem reports_checkEndpoint (endpoint : String) :
    Reports (checkEndpoint endpoint) (EndpointViolates endpoint) := by
  unfold checkEndpoint
  cases haddress : Url.Address.ofText endpoint with
  | error fault =>
    refine ⟨fun hok => (nomatch hok), fun other hother => ?_⟩
    obtain rfl := Except.error.inj hother
    refine ⟨.invalid haddress, ?_⟩
    rintro g (_ | _)
    · exact Nat.le_refl _
    · exact Nat.le_succ _
  | ok a =>
    refine ⟨fun hok fault hviolated => ?_, fun fault hfault => ?_⟩
    · dsimp only at hok
      split_ifs at hok with hscheme
      cases hviolated with
      | invalid h => cases haddress.symm.trans h
      | scheme h hhttp hhttps =>
        obtain rfl := Except.ok.inj (haddress.symm.trans h)
        exact hscheme.elim hhttp hhttps
    · dsimp only at hfault
      split_ifs at hfault with hscheme
      obtain rfl := Except.error.inj hfault
      obtain ⟨hhttp, hhttps⟩ := not_or.mp hscheme
      refine ⟨.scheme haddress hhttp hhttps, fun g hg => ?_⟩
      cases hg with
      | invalid h => cases haddress.symm.trans h
      | scheme _ _ _ => exact Nat.le_refl _

section Ranks

variable {fault : PlanFault}

theorem WorkersViolate.rank_le {workers : UInt32} (h : WorkersViolate workers fault) :
    fault.rank ≤ 1 := by
  cases h <;> decide

theorem EndpointViolates.rank_bounds {endpoint : String} (h : EndpointViolates endpoint fault) :
    3 ≤ fault.rank ∧ fault.rank ≤ 4 := by
  cases h <;> simp [PlanFault.rank]

theorem TimeoutViolates.le_rank {timeout : Duration} (h : TimeoutViolates timeout fault) :
    5 ≤ fault.rank := by
  cases h <;> decide

end Ranks

theorem SpawnPlan.check_eq (plan : SpawnPlan) :
    plan.check = checkWorkers plan.workers >>= fun _ =>
      if plan.iterations = 0 then .error .noIterations else .ok () := rfl

theorem SpawnPlan.reports_check (plan : SpawnPlan) : Reports plan.check plan.Violates := by
  have hzero : plan.iterations = 0 ↔ plan.iterations.toNat < 1 := by
    rw [← UInt64.toNat_inj, Nat.lt_one_iff]
    rfl
  rw [plan.check_eq]
  refine ((reports_checkWorkers plan.workers).bind
    (reports_ok.ite .noIterations fun _ h => h.elim) ?_).congr fun fault => ?_
  · rintro f g hf (⟨-, rfl⟩ | h)
    · exact Nat.le_succ_of_le hf.rank_le
    · exact h.elim
  constructor
  · rintro (h | ⟨h, rfl⟩ | h)
    · exact .workers h
    · exact .iterations (hzero.mp h)
    · exact h.elim
  · rintro (h | h)
    · exact .inl h
    · exact .inr (.inl ⟨hzero.mpr h, rfl⟩)

theorem FetchPlan.check_eq (plan : FetchPlan) :
    plan.check = checkWorkers plan.workers >>= fun _ =>
      if plan.attempts = 0 then .error .noAttempts
      else checkEndpoint plan.endpoint >>= fun _ => checkTimeout plan.timeout := rfl

theorem FetchPlan.reports_check (plan : FetchPlan) : Reports plan.check plan.Violates := by
  have hzero : plan.attempts = 0 ↔ plan.attempts.toNat < 1 := by
    rw [← UInt32.toNat_inj, Nat.lt_one_iff]
    rfl
  have hlast := (reports_checkEndpoint plan.endpoint).bind (reports_checkTimeout plan.timeout)
    fun f g hf hg => Nat.le_trans hf.rank_bounds.2 (Nat.le_of_succ_le hg.le_rank)
  have hlater : ∀ g, EndpointViolates plan.endpoint g ∨ TimeoutViolates plan.timeout g →
      3 ≤ g.rank := by
    rintro g (h | h)
    · exact h.rank_bounds.1
    · exact Nat.le_trans (by decide) h.le_rank
  rw [plan.check_eq]
  refine ((reports_checkWorkers plan.workers).bind
    (hlast.ite .noAttempts fun g hg => Nat.le_of_succ_le (hlater g hg)) ?_).congr fun fault => ?_
  · rintro f g hf (⟨-, rfl⟩ | hg)
    · exact Nat.le_succ_of_le hf.rank_le
    · exact Nat.le_trans hf.rank_le (Nat.le_trans (by decide) (hlater g hg))
  constructor
  · rintro (h | ⟨h, rfl⟩ | h | h)
    · exact .workers h
    · exact .attempts (hzero.mp h)
    · exact .endpoint h
    · exact .timeout h
  · rintro (h | h | h | h)
    · exact .inl h
    · exact .inr (.inl ⟨hzero.mpr h, rfl⟩)
    · exact .inr (.inr (.inl h))
    · exact .inr (.inr (.inr h))

/-! ## Plans that are accepted -/

/-- A plan for counting workers that meets all conditions. -/
structure SpawnPlan.Acceptable (plan : SpawnPlan) : Prop where
  workers : 1 ≤ plan.workers.toNat ∧ plan.workers.toNat ≤ 10000
  iterations : 1 ≤ plan.iterations.toNat

/-- A plan for fetching workers that meets all conditions. -/
structure FetchPlan.Acceptable (plan : FetchPlan) : Prop where
  workers : 1 ≤ plan.workers.toNat ∧ plan.workers.toNat ≤ 10000
  attempts : 1 ≤ plan.attempts.toNat
  endpoint : ∃ a, Url.Address.ofText plan.endpoint = .ok a ∧
    (a.scheme = "http".toList ∨ a.scheme = "https".toList)
  timeout : 0 < plan.timeout.nanos ∧ plan.timeout.nanos ≤ 300 * nanosPerSecond

theorem workers_iff {workers : UInt32} :
    (1 ≤ workers.toNat ∧ workers.toNat ≤ 10000) ↔ ∀ fault, ¬WorkersViolate workers fault := by
  constructor
  · rintro ⟨hpos, hle⟩ fault (h | h) <;> omega
  · intro hnone
    exact ⟨Nat.not_lt.mp fun h => hnone _ (.noWorkers h),
      Nat.not_lt.mp fun h => hnone _ (.tooManyWorkers h)⟩

theorem SpawnPlan.acceptable_iff {plan : SpawnPlan} :
    plan.Acceptable ↔ ∀ fault, ¬plan.Violates fault := by
  constructor
  · rintro ⟨hworkers, hiterations⟩ fault (h | h)
    · exact workers_iff.mp hworkers fault h
    · omega
  · intro hnone
    exact ⟨workers_iff.mpr fun fault h => hnone fault (.workers h),
      Nat.not_lt.mp fun h => hnone _ (.iterations h)⟩

theorem FetchPlan.acceptable_iff {plan : FetchPlan} :
    plan.Acceptable ↔ ∀ fault, ¬plan.Violates fault := by
  constructor
  · rintro ⟨hworkers, hattempts, ⟨a, haddress, hscheme⟩, htimeout⟩ fault (h | h | h | h)
    · exact workers_iff.mp hworkers fault h
    · omega
    · cases h with
      | invalid h => cases haddress.symm.trans h
      | scheme h hhttp hhttps =>
        obtain rfl := Except.ok.inj (haddress.symm.trans h)
        exact hscheme.elim hhttp hhttps
    · cases h <;> omega
  · intro hnone
    refine ⟨workers_iff.mpr fun fault h => hnone fault (.workers h),
      Nat.not_lt.mp fun h => hnone _ (.attempts h), ?_,
      Nat.pos_of_ne_zero fun h => hnone _ (.timeout (.noTimeout h)),
      Nat.not_lt.mp fun h => hnone _ (.timeout (.tooLong h))⟩
    cases haddress : Url.Address.ofText plan.endpoint with
    | error fault => exact absurd (.endpoint (.invalid haddress)) (hnone _)
    | ok a =>
      refine ⟨a, rfl, or_iff_not_imp_left.mpr fun hhttp => ?_⟩
      exact Classical.byContradiction fun hhttps =>
        hnone _ (.endpoint (.scheme haddress hhttp hhttps))

/-- A validation accepts exactly what is acceptable, and refuses everything else with the first
condition that is violated. -/
structure Decides (validate : Except Failure Unit) (acceptable : Prop)
    (violated : PlanFault → Prop) : Prop where
  accepts : validate = .ok () ↔ acceptable
  refuses : ¬acceptable →
    ∃ fault, IsFirst violated fault ∧ validate = .error ⟨.validation, fault.message⟩

theorem Reports.decides {check : Except PlanFault Unit} {acceptable : Prop}
    {violated : PlanFault → Prop} (h : Reports check violated)
    (hiff : acceptable ↔ ∀ fault, ¬violated fault) :
    Decides (check.mapError PlanFault.failure) acceptable violated := by
  rw [← h.ok_iff] at hiff
  cases hcheck : check with
  | ok u =>
    have hacceptable := hiff.mpr hcheck
    exact ⟨⟨fun _ => hacceptable, fun _ => rfl⟩, fun hnot => absurd hacceptable hnot⟩
  | error fault =>
    refine ⟨⟨fun hok => (nomatch hok), fun hacceptable => ?_⟩,
      fun _ => ⟨fault, h.error fault hcheck, rfl⟩⟩
    rw [hiff.mp hacceptable] at hcheck
    cases hcheck

/-! ## Schemes -/

namespace Url

theorem scheme_readHierarchy {scheme cs : List Char} {kind : Kind} {a : Address}
    (h : readHierarchy scheme kind cs = .ok a) : a.scheme = scheme := by
  unfold readHierarchy at h
  cases hplace : readPlace scheme kind cs with
  | error fault =>
    rw [hplace] at h
    cases h
  | ok place =>
    rw [hplace] at h
    obtain rfl := Except.ok.inj h
    rfl

theorem scheme_readFile {scheme cs : List Char} {a : Address} (h : readFile scheme cs = .ok a) :
    a.scheme = scheme := by
  unfold readFile at h
  cases hplace : readFilePlace cs with
  | error fault =>
    rw [hplace] at h
    cases h
  | ok place =>
    rw [hplace] at h
    obtain rfl := Except.ok.inj h
    rfl

theorem scheme_readPlain {scheme cs : List Char} {a : Address} (h : readPlain scheme cs = .ok a) :
    a.scheme = scheme := by
  unfold readPlain at h
  split at h
  · exact scheme_readHierarchy h
  · obtain rfl := Except.ok.inj h
    rfl

theorem scheme_readScheme? {cs scheme rest : List Char}
    (h : readScheme? cs = some (scheme, rest)) :
    scheme = (joined (cs.takeWhile (· ≠ ':'))).map Char.toLower := by
  unfold readScheme? at h
  dsimp only at h
  split at h
  · split_ifs at h
    exact (Prod.mk.inj (Option.some.inj h)).1.symm
  · cases h

/-- The scheme of an address is what stands in front of the first colon, in lower case. -/
theorem scheme_ofText {s : String} {a : Address} (h : Address.ofText s = .ok a) :
    a.scheme = (joined ((trimmed s.toList).takeWhile (· ≠ ':'))).map Char.toLower := by
  unfold Address.ofText at h
  cases hscheme : readScheme? (trimmed s.toList) with
  | none =>
    rw [hscheme] at h
    cases h
  | some front =>
    obtain ⟨scheme, rest⟩ := front
    rw [hscheme] at h
    rw [← scheme_readScheme? hscheme]
    dsimp only at h
    split at h
    · exact scheme_readHierarchy h
    · exact scheme_readFile h
    · exact scheme_readPlain h

end Url

/-! ## Runs -/

namespace Pool

/-- A run that a check guards: if the check refuses it, it fails in the same way and leaves the
world as it was, whether threads could be started or not, and otherwise the log hears that a pool is
created, if they can. -/
structure Guarded {α : Type} (check : Except Failure Unit) (run : World → Launch → Run α) :
    Prop where
  refused : ∀ f, check = .error f → ∀ world launch, run world launch = .failed world f
  accepted : check = .ok () → ∀ world : World, ∃ kind capacity,
    (Teller.dispatcher, Log.DispatchEvent.poolCreated kind capacity) ∈
      world.toldSince (run world .started).world

section Guarded

variable (processors : UInt32) (course : Course)

theorem guarded_spawn (plan : SpawnPlan) :
    Guarded plan.validate (spawn processors course plan · ·) where
  refused f hf world launch := by
    simp only [spawn, hf]
  accepted hplan world := by
    obtain ⟨m, early, late, hfinished, hend⟩ := runTasks_spec noClient
      (Config.buildable_cpu processors) .thread (countingTasks plan) false course world
    have hworld : (spawn processors course plan world).world = m.world := by
      simp only [spawn, hplan]
      rcases hend with ⟨i, message, -, hrun⟩ | ⟨-, peak, hrun⟩
      · rw [hrun]
        rfl
      · rw [hrun]
        rfl
    rw [hworld, hfinished.told]
    exact ⟨_, _, List.mem_cons_self⟩

theorem guarded_spawnSubmitOnly (plan : SpawnPlan) :
    Guarded plan.validate (spawnSubmitOnly processors course plan · ·) where
  refused f hf world launch := by
    simp only [spawnSubmitOnly, hf]
  accepted hplan world := by
    obtain ⟨-, -, early, -, htold⟩ :=
      submitTasks_spec (Config.buildable_cpu processors) (countingTasks plan) course world
    simp only [spawnSubmitOnly, hplan]
    rw [htold]
    exact ⟨_, _, List.mem_cons_self⟩

theorem guarded_fetch (tracking : Bool) (client : Client) (watch : Bool) (plan : FetchPlan) :
    Guarded plan.validate (fetch processors tracking client watch course plan · ·) where
  refused f hf world launch := by
    simp only [fetch, hf]
  accepted hplan world := by
    obtain ⟨m, order, early, late, hfinished, hend⟩ :=
      fetch_spec processors tracking client watch course hplan world
    have hext := (extends_warned tracking watch world).trans hfinished.traced.ext
    have hcreated : (Teller.dispatcher, Log.DispatchEvent.poolCreated .io
        (Config.io processors plan.workers).capacity.toNat) ∈ world.toldSince m.world := by
      rw [toldSince_warned hfinished.traced.ext, hfinished.told]
      exact List.mem_append_right _ List.mem_cons_self
    refine ⟨.io, (Config.io processors plan.workers).capacity.toNat, ?_⟩
    rcases hend with ⟨i, message, -, hrun⟩ | ⟨-, -, report, -, -, hrun⟩
    · rw [hrun]
      exact hcreated
    · rw [hrun, World.toldSince_tell hext]
      exact List.mem_append_left _ hcreated

end Guarded

/-- A plan is accepted exactly if all its conditions hold, and refused with the first one that does
not; the scheme of an endpoint is what stands in front of its first colon, in lower case. A run of a
plan that is refused fails in the same way and does nothing: its world, with the calls of the
client, the log and the counters of the memory, stays as it was. -/
theorem refusal_of_plans :
    (∀ plan : SpawnPlan, Decides plan.validate plan.Acceptable plan.Violates ∧
        ∀ processors course, Guarded plan.validate (spawn processors course plan · ·) ∧
          Guarded plan.validate (spawnSubmitOnly processors course plan · ·)) ∧
      (∀ plan : FetchPlan, Decides plan.validate plan.Acceptable plan.Violates ∧
        ∀ processors tracking client watch course,
          Guarded plan.validate (fetch processors tracking client watch course plan · ·)) ∧
      ∀ (endpoint : String) (a : Url.Address), Url.Address.ofText endpoint = .ok a →
        a.scheme =
          (Url.joined ((Url.trimmed endpoint.toList).takeWhile (· ≠ ':'))).map Char.toLower := by
  refine ⟨fun plan => ⟨?_, fun processors course => ⟨?_, ?_⟩⟩,
    fun plan => ⟨?_, fun processors tracking client watch course => ?_⟩, fun endpoint a h => ?_⟩
  · exact plan.reports_check.decides SpawnPlan.acceptable_iff
  · exact guarded_spawn processors course plan
  · exact guarded_spawnSubmitOnly processors course plan
  · exact plan.reports_check.decides FetchPlan.acceptable_iff
  · exact guarded_fetch processors course tracking client watch plan
  · exact Url.scheme_ofText h

end Pool

example : ({ workers := 0, attempts := 0, endpoint := "ftp://host" } : FetchPlan).validate =
    .error ⟨.validation, "Worker count must be greater than 0"⟩ := rfl

end BenchRig
