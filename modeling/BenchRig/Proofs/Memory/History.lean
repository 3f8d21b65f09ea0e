import BenchRig.Memory.Heap
import Mathlib.Algebra.Ring.Nat
import Mathlib.Data.List.DropRight
import Mathlib.Order.Bounds.Basic
import Mathlib.Tactic.Cases

/-!
# The counters over a history of blocks

However blocks are requested, resized and released, and whichever requests are refused, the counters
follow the blocks: what is current is what is live, the peak is the greatest reading since it was
last restarted, and the allocations are the requests that were granted.
-/

namespace BenchRig.Memory

/-- Whether an action starts the peak again. -/
def Action.restartsPeak : Action → Bool
  | resetPeak | start => true
  | _ => false

/-! ## One action -/

/-- What an action does to the counters and to the number of live bytes, by its answer and by
whether it starts the peak again. -/
inductive Change (c : Counters) (live : Nat) : Option Bool → Bool → Counters → Nat → Prop where
  /-- Nothing is granted and nothing released. -/
  | idle {answer : Option Bool} (refused : answer ≠ some true) : Change c live answer false c live
  /-- A block is granted. -/
  | allocate (size : UInt64) :
      Change c live (some true) false (c.allocate size) (live + size.toNat)
  /-- A block is replaced by one of another size. -/
  | resize (old new : UInt64) (rest : Nat) (split : live = rest + old.toNat) :
      Change c live (some true) false (c.resize old new) (rest + new.toNat)
  /-- A block is released. -/
  | release (size : UInt64) (rest : Nat) (split : live = rest + size.toNat) :
      Change c live none false (c.release size) rest
  /-- The peak starts again. -/
  | restart : Change c live none true c.resetPeak live

/-- The bytes of a block; there are none where no block is live. -/
def blockBytes (b : Option UInt64) : Nat := (b.map UInt64.toNat).getD 0

theorem Heap.live_eq_sum (h : Heap) : h.live = (h.blocks.map blockBytes).sum := by
  unfold Heap.live
  induction h.blocks with
  | nil => rfl
  | cons b blocks ih => simp [blockBytes, ih]

/-- Replacing one block changes the sum by the difference of the two. -/
theorem sum_set_blocks {blocks : List (Option UInt64)} {i : Nat} {old : Option UInt64}
    (hi : blocks[i]? = some old) :
    ∃ rest, (blocks.map blockBytes).sum = rest + blockBytes old ∧
      ∀ b, ((blocks.set i b).map blockBytes).sum = rest + blockBytes b := by
  induction blocks generalizing i with
  | nil => simp at hi
  | cons b blocks ih =>
    cases i with
    | zero =>
      obtain rfl : b = old := by simpa using hi
      refine ⟨(blocks.map blockBytes).sum, ?_, fun b' => ?_⟩
      · simp [Nat.add_comm]
      · simp [Nat.add_comm]
    | succ i =>
      obtain ⟨rest, hsum, hset⟩ := ih (i := i) (by simpa using hi)
      refine ⟨blockBytes b + rest, ?_, fun b' => ?_⟩
      · rw [List.map_cons, List.sum_cons, hsum, Nat.add_assoc]
      · rw [List.set_cons_succ, List.map_cons, List.sum_cons, hset b', Nat.add_assoc]

/-- Everything that an action can do. -/
theorem Heap.change (h : Heap) (a : Action) :
    Change h.counters h.live (h.step a).2 a.restartsPeak (h.step a).1.counters
      (h.step a).1.live := by
  cases a with
  | allocate size granted =>
    cases granted with
    | true =>
      have hlive : (h.step (.allocate size true)).1.live = h.live + size.toNat := by
        simp [Heap.live_eq_sum, Heap.step, blockBytes]
      rw [hlive]
      exact .allocate size
    | false =>
      have hlive : (h.step (.allocate size false)).1.live = h.live := by
        simp [Heap.live_eq_sum, Heap.step, blockBytes]
      rw [hlive]
      exact .idle (by simp [Heap.step])
  | resize block size granted =>
    simp only [Heap.step]
    split
    · rename_i old hold
      obtain ⟨rest, hsum, hset⟩ := sum_set_blocks hold
      cases granted with
      | true =>
        have hlive : Heap.live { h with
            blocks := h.blocks.set block (some size)
            counters := h.counters.resize old size } = rest + size.toNat := by
          rw [Heap.live_eq_sum]
          exact hset (some size)
        simp only [if_true, hlive]
        exact .resize old size rest (by rw [Heap.live_eq_sum, hsum]; rfl)
      | false => exact .idle (by simp)
    · exact .idle (by simp)
  | release block =>
    simp only [Heap.step]
    split
    · rename_i size hsize
      obtain ⟨rest, hsum, hset⟩ := sum_set_blocks hsize
      have hlive : Heap.live { h with
          blocks := h.blocks.set block none
          counters := h.counters.release size } = rest := by
        rw [Heap.live_eq_sum]
        exact hset none
      simp only [hlive]
      exact .release size rest (by rw [Heap.live_eq_sum, hsum]; rfl)
    · exact .idle (by simp)
  | resetPeak => exact .restart
  | start => exact .restart
  | sample => exact .idle (by simp [Heap.step])

/-- The counters follow the live bytes. -/
structure Counters.Tracks (c : Counters) (live : Nat) : Prop where
  /-- What is current is what is live. -/
  current : c.current.toNat = live
  /-- The peak is not below it. -/
  le_peak : c.current ≤ c.peak

theorem Counters.current_allocate {c : Counters} {size : UInt64}
    (fits : c.current.toNat + size.toNat < 2 ^ 64) :
    (c.allocate size).current.toNat = c.current.toNat + size.toNat := by
  simp only [allocate, UInt64.toNat_add]
  omega

theorem Counters.current_release {c : Counters} {size : UInt64}
    (h : size.toNat ≤ c.current.toNat) :
    (c.release size).current.toNat = c.current.toNat - size.toNat :=
  UInt64.toNat_sub_of_le _ _ (UInt64.le_iff_toNat_le.mpr h)

theorem Counters.peak_allocate (c : Counters) (size : UInt64) :
    (c.allocate size).peak.toNat = max c.peak.toNat (c.allocate size).current.toNat :=
  UInt64.toNat_max _ _

section Change

variable {c c' : Counters} {live live' : Nat} {answer : Option Bool} {restarts : Bool}

/-- An action keeps what is current equal to what is live, as long as that is a word. -/
theorem Change.current (h : Change c live answer restarts c' live') (ht : c.Tracks live)
    (fits : live' < 2 ^ 64) : c'.current.toNat = live' := by
  have hc := ht.current
  cases h with
  | idle => exact hc
  | allocate size => rw [Counters.current_allocate (by omega), hc]
  | resize old new rest split =>
    have hrest : (c.release old).current.toNat = rest := by
      rw [Counters.current_release (by omega)]
      omega
    rw [Counters.resize, Counters.current_allocate (by omega), hrest]
  | release size rest split =>
    rw [Counters.current_release (by omega)]
    omega
  | restart => exact hc

/-- Unless it starts the peak again, an action raises it to what is current, if that is more. -/
theorem Change.peak (h : Change c live answer false c' live') (ht : c.Tracks live)
    (fits : live' < 2 ^ 64) : c'.peak.toNat = max c.peak.toNat c'.current.toNat := by
  have hpeak := UInt64.le_iff_toNat_le.mp ht.le_peak
  have hc' := h.current ht fits
  have hc := ht.current
  cases h with
  | idle => exact (Nat.max_eq_left hpeak).symm
  | allocate size => exact c.peak_allocate size
  | resize old new rest split => exact (c.release old).peak_allocate new
  | release size rest split =>
    have hle : (c.release size).current.toNat ≤ c.peak.toNat := by omega
    exact (Nat.max_eq_left hle).symm

/-- Starting the peak again takes it down to what is current. -/
theorem Change.peak_of_restart (h : Change c live answer true c' live') :
    c'.peak = c'.current := by
  cases h
  rfl

theorem Change.tracks (h : Change c live answer restarts c' live') (ht : c.Tracks live)
    (fits : live' < 2 ^ 64) : c'.Tracks live' := by
  refine ⟨h.current ht fits, ?_⟩
  cases restarts with
  | true => exact UInt64.le_of_eq h.peak_of_restart.symm
  | false =>
    rw [UInt64.le_iff_toNat_le, h.peak ht fits]
    exact Nat.le_max_right _ _

/-- Exactly the granted requests are counted. -/
theorem Change.allocations (h : Change c live answer restarts c' live') :
    c'.allocations = c.allocations + UInt64.ofNat (if answer = some true then 1 else 0) := by
  cases h <;> simp_all [Counters.allocate, Counters.resize, Counters.release, Counters.resetPeak]

end Change

/-! ## A history -/

/-- After actions, one after another. -/
def Heap.run (h : Heap) (actions : List Action) : Heap :=
  actions.foldl (fun h a => (h.step a).1) h

/-- The answers to actions, one after another. -/
def Heap.answers (h : Heap) : List Action → List (Option Bool)
  | [] => []
  | a :: actions => (h.step a).2 :: (h.step a).1.answers actions

/-- The actions up to the one that last started the peak again. -/
def untilRestart (actions : List Action) : List Action :=
  actions.rdropWhile fun a => !a.restartsPeak

/-- The actions after the one that last started the peak again. -/
def sinceRestart (actions : List Action) : List Action :=
  actions.rtakeWhile fun a => !a.restartsPeak

/-- What is current before the first action, and after each of them. -/
def Heap.readings (h : Heap) (actions : List Action) : Set Nat :=
  {n | ∃ k ≤ actions.length, n = (h.run (actions.take k)).counters.current.toNat}

theorem Heap.run_concat (h : Heap) (actions : List Action) (a : Action) :
    h.run (actions ++ [a]) = ((h.run actions).step a).1 := by
  simp [Heap.run]

theorem Heap.answers_concat (h : Heap) (actions : List Action) (a : Action) :
    h.answers (actions ++ [a]) = h.answers actions ++ [((h.run actions).step a).2] := by
  induction actions generalizing h with
  | nil => rfl
  | cons b actions ih => simp [Heap.answers, ih, Heap.run]

theorem Heap.readings_nil (h : Heap) : h.readings [] = {h.counters.current.toNat} := by
  ext n
  simp [Heap.readings, Heap.run]

theorem Heap.readings_concat (h : Heap) (actions : List Action) (a : Action) :
    h.readings (actions ++ [a]) =
      insert (h.run (actions ++ [a])).counters.current.toNat (h.readings actions) := by
  ext n
  simp only [Heap.readings, Set.mem_insert_iff, Set.mem_ofPred_eq, List.length_append,
    List.length_singleton]
  constructor
  · rintro ⟨k, hk, rfl⟩
    rcases Nat.lt_or_ge actions.length k with hlt | hle
    · left
      rw [List.take_of_length_le (by simp; omega)]
    · right
      exact ⟨k, hle, by rw [List.take_append_of_le_length hle]⟩
  · rintro (rfl | ⟨k, hk, rfl⟩)
    · exact ⟨actions.length + 1, le_rfl, by rw [List.take_of_length_le (by simp)]⟩
    · exact ⟨k, by omega, by rw [List.take_append_of_le_length hk]⟩

theorem untilRestart_concat (actions : List Action) (a : Action) :
    untilRestart (actions ++ [a]) =
      if a.restartsPeak then actions ++ [a] else untilRestart actions := by
  cases ha : a.restartsPeak <;> simp [untilRestart, ha]

theorem sinceRestart_concat (actions : List Action) (a : Action) :
    sinceRestart (actions ++ [a]) =
      if a.restartsPeak then [] else sinceRestart actions ++ [a] := by
  cases ha : a.restartsPeak <;> simp [sinceRestart, ha]

/-- The two parts of a history make the whole of it. -/
theorem Heap.run_sinceRestart (h : Heap) (actions : List Action) :
    (h.run (untilRestart actions)).run (sinceRestart actions) = h.run actions := by
  unfold Heap.run
  rw [← List.foldl_append, untilRestart, sinceRestart, List.rdropWhile_append_rtakeWhile]

/-- The live bytes fit into a word before the first action and after each of them. -/
def Heap.Fits (h : Heap) (actions : List Action) : Prop :=
  ∀ k ≤ actions.length, (h.run (actions.take k)).live < 2 ^ 64

instance (h : Heap) (actions : List Action) : Decidable (h.Fits actions) := by
  unfold Heap.Fits
  infer_instance

theorem Heap.fits_concat {h : Heap} {actions : List Action} {a : Action}
    (fits : h.Fits (actions ++ [a])) :
    h.Fits actions ∧ (h.run (actions ++ [a])).live < 2 ^ 64 := by
  constructor
  · intro k hk
    have := fits k (by simp; omega)
    rwa [List.take_append_of_le_length hk] at this
  · have := fits _ le_rfl
    rwa [List.take_length] at this

/-- The counters of a heap follow its blocks. -/
def Heap.Tracked (h : Heap) : Prop := h.counters.Tracks h.live

theorem Heap.tracked_run {h : Heap} (ht : h.Tracked) {actions : List Action}
    (fits : h.Fits actions) : (h.run actions).Tracked := by
  induction actions using List.reverseRecOn with
  | nil => exact ht
  | append_singleton actions a ih =>
    obtain ⟨hfits, hlast⟩ := Heap.fits_concat fits
    rw [Heap.run_concat] at hlast ⊢
    exact ((h.run actions).change a).tracks (ih hfits) hlast

/-- The peak of a history is the greatest reading since it last started again; before the first
time that it does, the readings start at a heap whose peak is what is current. -/
theorem Heap.peak_isGreatest {h : Heap} (ht : h.Tracked)
    (hpeak : h.counters.peak = h.counters.current) {actions : List Action}
    (fits : h.Fits actions) :
    IsGreatest ((h.run (untilRestart actions)).readings (sinceRestart actions))
      (h.run actions).counters.peak.toNat := by
  induction actions using List.reverseRecOn with
  | nil =>
    have hstart : h.run [] = h := rfl
    simp only [untilRestart, sinceRestart, List.rdropWhile_nil, List.rtakeWhile_nil,
      Heap.readings_nil, hstart, hpeak]
    exact isGreatest_singleton
  | append_singleton actions a ih =>
    obtain ⟨hfits, hlast⟩ := Heap.fits_concat fits
    have hchange := (h.run actions).change a
    have hrun := h.run_concat actions a
    rw [hrun] at hlast
    rw [untilRestart_concat, sinceRestart_concat]
    cases ha : a.restartsPeak with
    | true =>
      rw [ha] at hchange
      simp only [if_true, Heap.readings_nil, hrun, hchange.peak_of_restart]
      exact isGreatest_singleton
    | false =>
      rw [ha] at hchange
      simp only [Bool.false_eq_true, if_false, Heap.readings_concat, Heap.run_concat,
        Heap.run_sinceRestart]
      rw [hchange.peak (Heap.tracked_run ht hfits) hlast, max_comm]
      exact (ih hfits).insert _

theorem Heap.allocations_run (h : Heap) (actions : List Action) :
    (h.run actions).counters.allocations =
      h.counters.allocations + UInt64.ofNat ((h.answers actions).count (some true)) := by
  induction actions using List.reverseRecOn with
  | nil => simp [Heap.run, Heap.answers]
  | append_singleton actions a ih =>
    rw [Heap.run_concat, ((h.run actions).change a).allocations, ih, Heap.answers_concat,
      List.count_append, List.count_singleton, UInt64.add_assoc, ← UInt64.ofNat_add]
    simp [beq_iff_eq]

/-- A live block is no longer than all live blocks together. -/
theorem Heap.size_le_live {h : Heap} {i : Nat} {size : UInt64}
    (hi : h.blocks[i]? = some (some size)) : size.toNat ≤ h.live := by
  obtain ⟨rest, hsum, -⟩ := sum_set_blocks hi
  rw [Heap.live_eq_sum, hsum]
  exact Nat.le_add_left _ _

/-- A refused request changes no counter and no live block. -/
theorem Heap.step_refused {h : Heap} {a : Action} (refused : (h.step a).2 = some false) :
    (h.step a).1.counters = h.counters ∧
      ∀ (i : Nat) size,
        (h.step a).1.blocks[i]? = some (some size) ↔ h.blocks[i]? = some (some size) := by
  cases a with
  | allocate size granted =>
    cases granted with
    | true => simp [Heap.step] at refused
    | false =>
      refine ⟨rfl, fun i size => ?_⟩
      simp only [Heap.step]
      grind
  | resize block size granted =>
    simp only [Heap.step] at refused ⊢
    split at refused
    · cases granted with
      | true => simp at refused
      | false => simp_all
    · simp_all
  | release block =>
    simp only [Heap.step] at refused
    split at refused <;> cases refused
  | resetPeak => cases refused
  | start => cases refused
  | sample => cases refused

/-- Over any history of requests, whichever of them are refused, releases and restarts of the peak,
during which the live bytes fit into a word: what is current is the number of live bytes, so that
releasing a live block never goes below zero; the peak is the greatest reading since it last started
again, that one included; the allocations are the granted requests; and a refused request leaves
the counters and the live blocks as they were. -/
theorem counters_of_history (actions : List Action) (fits : Heap.Fits {} actions) :
    let h := Heap.run {} actions
    h.counters.current.toNat = h.live ∧
      (∀ (i : Nat) size, h.blocks[i]? = some (some size) → size ≤ h.counters.current) ∧
      IsGreatest ((Heap.run {} (untilRestart actions)).readings (sinceRestart actions))
        h.counters.peak.toNat ∧
      h.counters.current ≤ h.counters.peak ∧
      h.counters.allocations = UInt64.ofNat ((Heap.answers {} actions).count (some true)) ∧
      ∀ a, (h.step a).2 = some false →
        (h.step a).1.counters = h.counters ∧
          ∀ (i : Nat) size,
            (h.step a).1.blocks[i]? = some (some size) ↔ h.blocks[i]? = some (some size) := by
  have hstart : Heap.Tracked {} := ⟨rfl, by decide⟩
  have htracked := Heap.tracked_run hstart fits
  refine ⟨htracked.current, fun i size hi => ?_, Heap.peak_isGreatest hstart rfl fits,
    htracked.le_peak, ?_, fun a => Heap.step_refused⟩
  · rw [UInt64.le_iff_toNat_le, htracked.current]
    exact Heap.size_le_live hi
  · rw [Heap.allocations_run]
    exact UInt64.zero_add _

/-- A history with a refused request, a block that grows, and a restart of the peak. -/
def shortHistory : List Action :=
  [.allocate 40 true, .allocate 9 false, .resize 0 100 true, .allocate 7 true, .resetPeak,
    .release 0, .allocate 30 true]

theorem counters_of_shortHistory :
    Heap.Fits {} shortHistory ∧
      (Heap.run {} shortHistory).counters = ⟨37, 107, 4⟩ ∧
      (Heap.run {} shortHistory).counters.current.toNat = (Heap.run {} shortHistory).live := by
  have fits : Heap.Fits {} shortHistory := by decide
  exact ⟨fits, by decide, (counters_of_history shortHistory fits).1⟩

end BenchRig.Memory
