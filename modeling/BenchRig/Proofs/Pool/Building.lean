import BenchRig.Pool.Config
import BenchRig.Proofs.Decimal.Spelling
import Mathlib.Algebra.Ring.Nat
import Mathlib.Order.Lattice

/-!
# Which pools are built

A pool is built when its shape is valid, its threads have started, and its semaphore has a permit
for each unit that may run. Everything else ends a run before it has a pool.
-/

namespace BenchRig.Pool.Config

/-- A shape that a pool can have: room for a unit, a thread to drive it, and no more room than a
semaphore has permits. -/
structure Buildable (c : Config) : Prop where
  capacity : 0 < c.capacity.toNat
  threads : 0 < c.threads.toNat
  room : c.capacity.toNat ≤ maxPermits

variable {c : Config} {launch : Launch}

theorem toNat_pos_iff {n : UInt64} : 0 < n.toNat ↔ n ≠ 0 := by
  rw [Nat.pos_iff_ne_zero, ne_eq, ← UInt64.toNat_zero, UInt64.toNat_inj]

theorem check_eq_ok_iff : c.check = .ok () ↔ 0 < c.capacity.toNat ∧ 0 < c.threads.toNat := by
  rw [toNat_pos_iff, toNat_pos_iff]
  unfold check
  by_cases hc : c.capacity = 0
  · simp [hc]
  · by_cases ht : c.threads = 0
    · simp [hc, ht]
    · simp [hc, ht]

theorem validate_eq_ok_iff : c.validate = .ok () ↔ 0 < c.capacity.toNat ∧ 0 < c.threads.toNat := by
  rw [← check_eq_ok_iff, validate]
  cases c.check with
  | error f => exact ⟨fun h => (nomatch h), fun h => (nomatch h)⟩
  | ok u => exact ⟨fun _ => rfl, fun _ => rfl⟩

theorem Buildable.validate (h : c.Buildable) : c.validate = .ok () :=
  validate_eq_ok_iff.mpr ⟨h.capacity, h.threads⟩

/-- A valid shape can be built unless its semaphore had too many permits. -/
theorem buildable_of_validate (hvalid : c.validate = .ok ()) (hroom : c.capacity.toNat < 2 ^ 61) :
    c.Buildable := by
  obtain ⟨hcapacity, hthreads⟩ := validate_eq_ok_iff.mp hvalid
  refine ⟨hcapacity, hthreads, ?_⟩
  rw [maxPermits]
  omega

/-- What building answers, in the order in which its conditions are met. -/
theorem build_cases (c : Config) (launch : Launch) :
    (∃ f, c.validate = .error f ∧ c.build launch = .error (.failure f)) ∨
      (c.validate = .ok () ∧
        ((∃ reason, launch = .refused reason ∧
            c.build launch = .error (.failure (c.unlaunched reason))) ∨
          (∃ message, launch = .panicked message ∧ c.build launch = .error (.panic message)) ∨
          launch = .started ∧
            ((maxPermits < c.capacity.toNat ∧ c.build launch = .error (.panic tooManyPermits)) ∨
              c.capacity.toNat ≤ maxPermits ∧ c.build launch = .ok ()))) := by
  cases hvalid : c.validate with
  | error f => exact .inl ⟨f, rfl, by simp [build, hvalid]⟩
  | ok =>
    refine .inr ⟨rfl, ?_⟩
    cases launch with
    | refused reason => exact .inl ⟨reason, rfl, by simp [build, hvalid]⟩
    | panicked message => exact .inr (.inl ⟨message, rfl, by simp [build, hvalid]⟩)
    | started =>
      refine .inr (.inr ⟨rfl, ?_⟩)
      by_cases hroom : maxPermits < c.capacity.toNat
      · exact .inl ⟨hroom, by simp [build, hvalid, hroom]⟩
      · exact .inr ⟨Nat.le_of_not_lt hroom, by simp [build, hvalid, hroom]⟩

theorem Buildable.build (h : c.Buildable) : c.build .started = .ok () := by
  simp [Config.build, h.validate, Nat.not_lt.mpr h.room]

/-- A pool is built exactly when its shape is one that a pool can have and its threads start. -/
theorem build_eq_ok_iff : c.build launch = .ok () ↔ c.Buildable ∧ launch = .started := by
  refine ⟨fun hbuild => ?_, fun ⟨h, hlaunch⟩ => hlaunch ▸ h.build⟩
  rcases c.build_cases launch with ⟨f, -, h⟩ | ⟨hvalid, ⟨reason, -, h⟩ | ⟨message, -, h⟩ |
    ⟨hlaunch, ⟨-, h⟩ | ⟨hroom, -⟩⟩⟩
  · cases h.symm.trans hbuild
  · cases h.symm.trans hbuild
  · cases h.symm.trans hbuild
  · cases h.symm.trans hbuild
  · obtain ⟨hcapacity, hthreads⟩ := validate_eq_ok_iff.mp hvalid
    exact ⟨⟨hcapacity, hthreads, hroom⟩, hlaunch⟩

theorem tooManyPermits_eq : tooManyPermits =
    "a semaphore may not have more than MAX_PERMITS permits (2305843009213693951)" := by
  have hnumber : tooManyPermits = "a semaphore may not have more than MAX_PERMITS permits (" ++
      toString 2305843009213693951 ++ ")" := by
    unfold tooManyPermits maxPermits
    simp only [Decimal.text_eq_toString]
  have hspelled : "a semaphore may not have more than MAX_PERMITS permits (" ++
      toString 2305843009213693951 ++ ")" =
        "a semaphore may not have more than MAX_PERMITS permits (2305843009213693951)" := by
    decide +kernel
  exact hnumber.trans hspelled

/-- A valid shape whose threads the system refuses ends in a failure that tells what was to be built
and why it was not. -/
theorem build_of_refused (hvalid : c.validate = .ok ()) (reason : String) :
    c.build (.refused reason) = .error (.failure ⟨.pool, "Failed to build " ++
      (match c.kind with | .cpu => "cpu" | .io => "io") ++ " pool: " ++ reason⟩) := by
  obtain ⟨kind, capacity, threads⟩ := c
  simp only [build, hvalid, unlaunched]
  cases kind <;> rfl

/-- A valid shape with more room than a semaphore has permits ends in a panic, although its threads
have started. -/
theorem build_of_crowded (hvalid : c.validate = .ok ()) (hroom : 2 ^ 61 ≤ c.capacity.toNat) :
    c.build .started = .error (.panic
      "a semaphore may not have more than MAX_PERMITS permits (2305843009213693951)") := by
  have hmany : maxPermits < c.capacity.toNat := by
    rw [maxPermits]
    omega
  simp [build, hvalid, hmany, tooManyPermits_eq]

/-! ## The shapes of dispatchers -/

theorem toNat_max_one (n : UInt32) : (max n.toUInt64 1).toNat = max n.toNat 1 := by
  rw [UInt64.toNat_max, UInt32.toNat_toUInt64, UInt64.toNat_one]

/-- The pool for units that compute can be built on every machine. -/
theorem buildable_cpu (processors : UInt32) : (cpu processors).Buildable := by
  have hlt := processors.toNat_lt
  refine ⟨?_, Nat.one_pos, ?_⟩
  · rw [cpu, toNat_max_one]
    omega
  · rw [cpu, toNat_max_one, maxPermits]
    omega

/-- The pool for units that wait can be built on every machine and for every number of workers. -/
theorem buildable_io (processors workers : UInt32) : (io processors workers).Buildable := by
  have hlt := workers.toNat_lt
  refine ⟨?_, ?_, ?_⟩
  · rw [io, toNat_max_one]
    omega
  · rw [io, toNat_max_one]
    omega
  · rw [io, toNat_max_one, maxPermits]
    omega

end BenchRig.Pool.Config
