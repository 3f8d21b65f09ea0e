import BenchRig.Proofs.Memory.History

/-!
# Sampling the peak

A sampler sees the counters only when it takes a sample. It misses nothing all the same: the counters
keep the peak between two samples, and nothing but the start of the sampler takes it back. So after
the last sample the sampler knows the greatest number of live bytes since it was started, wherever
the samples before it were taken.
-/

namespace BenchRig.Memory

/-- The live bytes before the first action, and after each of them. -/
def Heap.levels (h : Heap) (actions : List Action) : Set Nat :=
  {n | ∃ k ≤ actions.length, n = (h.run (actions.take k)).live}

/-- The actions up to the last sample. -/
def untilSample (actions : List Action) : List Action :=
  actions.rdropWhile fun a => a ≠ .sample

/-- The actions that are no samples. -/
def withoutSamples (actions : List Action) : List Action :=
  actions.filter fun a => a ≠ .sample

theorem untilSample_concat (actions : List Action) (a : Action) :
    untilSample (actions ++ [a]) = if a = .sample then actions ++ [a] else untilSample actions := by
  by_cases ha : a = .sample
  · simp [untilSample, ha]
  · simp [untilSample, ha]

theorem prefix_untilSample (actions : List Action) : untilSample actions <+: actions :=
  List.rdropWhile_prefix _ actions

theorem Heap.run_append (h : Heap) (actions actions' : List Action) :
    h.run (actions ++ actions') = (h.run actions).run actions' :=
  List.foldl_append

/-! ## The peak between samples -/

/-- Only the start of the peak takes it down. -/
theorem Change.peak_le {c c' : Counters} {live live' : Nat} {answer : Option Bool}
    (h : Change c live answer false c' live') : c.peak ≤ c'.peak := by
  rw [UInt64.le_iff_toNat_le]
  cases h with
  | idle => exact le_rfl
  | allocate size =>
    rw [c.peak_allocate size]
    exact Nat.le_max_left _ _
  | resize old new =>
    have hpeak := (c.release old).peak_allocate new
    have hle : c.peak.toNat ≤ max (c.release old).peak.toNat
        ((c.release old).allocate new).current.toNat := Nat.le_max_left _ _
    rwa [← hpeak] at hle
  | release size => exact le_rfl

theorem Heap.peak_step_le (h : Heap) {a : Action} (ha : a.restartsPeak = false) :
    h.counters.peak ≤ (h.step a).1.counters.peak := by
  have hchange := h.change a
  rw [ha] at hchange
  exact hchange.peak_le

/-- Only the start of the sampler and its samples touch it. -/
theorem Heap.sampler_step (h : Heap) {a : Action} (ha : a.restartsPeak = false) :
    (h.step a).1.sampler =
      if a = .sample then h.sampler.map fun s => s.observe h.counters else h.sampler := by
  cases a with
  | allocate size granted => cases granted <;> rfl
  | resize block size granted =>
    simp only [step]
    split
    · cases granted <;> rfl
    · rfl
  | release block =>
    simp only [step]
    split <;> rfl
  | resetPeak => cases ha
  | start => cases ha
  | sample => rfl

theorem max_eq_of_le {a b : UInt64} (h : a ≤ b) : max a b = b := by
  apply UInt64.toNat_inj.mp
  rw [UInt64.toNat_max]
  exact Nat.max_eq_right (UInt64.le_iff_toNat_le.mp h)

/-- A sampler that has just been started, after actions that do not start the peak again: it knows
the peak at its last sample. -/
theorem Heap.sampler_run {h : Heap} (hstart : h.sampler = some ⟨h.counters.peak, 1⟩)
    {actions : List Action} (hkeep : ∀ a ∈ actions, a.restartsPeak = false) :
    ∃ s, (h.run actions).sampler = some s ∧
      s.maxPeak = (h.run (untilSample actions)).counters.peak ∧
      s.maxPeak ≤ (h.run actions).counters.peak ∧
      s.samples = actions.count .sample + 1 := by
  induction actions using List.reverseRecOn with
  | nil => exact ⟨_, hstart, rfl, UInt64.le_refl _, rfl⟩
  | append_singleton actions a ih =>
    have ha : a.restartsPeak = false := hkeep a (by simp)
    obtain ⟨s, hs, hmax, hle, hsamples⟩ := ih fun b hb => hkeep b (by simp [hb])
    have hpeak := (h.run actions).peak_step_le ha
    have hsampler := (h.run actions).sampler_step ha
    rw [Heap.run_concat, untilSample_concat, List.count_append]
    by_cases hsample : a = .sample
    · subst hsample
      refine ⟨s.observe (h.run actions).counters, ?_, ?_, ?_, ?_⟩
      · rw [hsampler, hs]
        rfl
      · rw [if_pos rfl, Heap.run_concat]
        exact max_eq_of_le hle
      · exact UInt64.le_of_eq (max_eq_of_le hle)
      · simp [Sampler.observe, hsamples]
    · refine ⟨s, ?_, ?_, UInt64.le_trans hle hpeak, ?_⟩
      · rw [hsampler, if_neg hsample, hs]
      · rw [if_neg hsample, hmax]
      · simp [hsamples, hsample]

/-! ## Samples change nothing -/

/-- Heaps with the same blocks and counters, whatever their samplers saw. -/
def Heap.Agree (h h' : Heap) : Prop := h.blocks = h'.blocks ∧ h.counters = h'.counters

theorem Heap.Agree.step {h h' : Heap} (hagree : h.Agree h') (a : Action) :
    (h.step a).1.Agree (h'.step a).1 := by
  obtain ⟨hblocks, hcounters⟩ := hagree
  cases a with
  | allocate size granted => cases granted <;> simp [Heap.step, Heap.Agree, hblocks, hcounters]
  | resize block size granted =>
    simp only [Heap.step, hblocks]
    split
    · cases granted <;> simp [Heap.Agree, hblocks, hcounters]
    · exact ⟨hblocks, hcounters⟩
  | release block =>
    simp only [Heap.step, hblocks]
    split
    · simp [Heap.Agree, hcounters]
    · exact ⟨hblocks, hcounters⟩
  | resetPeak => simp [Heap.step, Heap.Agree, hblocks, hcounters]
  | start => simp [Heap.step, Heap.Agree, Sampler.start, hblocks, hcounters]
  | sample => simp [Heap.step, Heap.Agree, hblocks, hcounters]

theorem Heap.Agree.run {h h' : Heap} (hagree : h.Agree h') (actions : List Action) :
    (h.run actions).Agree (h'.run actions) := by
  induction actions using List.reverseRecOn with
  | nil => exact hagree
  | append_singleton actions a ih =>
    rw [Heap.run_concat, Heap.run_concat]
    exact ih.step a

theorem Heap.agree_withoutSamples (h : Heap) (actions : List Action) :
    (h.run actions).Agree (h.run (withoutSamples actions)) := by
  induction actions using List.reverseRecOn with
  | nil => exact ⟨rfl, rfl⟩
  | append_singleton actions a ih =>
    by_cases ha : a = .sample
    · subst ha
      have hsame : withoutSamples (actions ++ [.sample]) = withoutSamples actions := by
        simp [withoutSamples]
      rw [hsame, Heap.run_concat]
      exact ih
    · have hsame : withoutSamples (actions ++ [a]) = withoutSamples actions ++ [a] := by
        simp [withoutSamples, ha]
      rw [hsame, Heap.run_concat, Heap.run_concat]
      exact ih.step a

/-! ## From the start on -/

theorem rtakeWhile_of_all {α : Type} (p : α → Bool) (l : List α) {l' : List α} {a : α}
    (ha : p a = false) (hl : ∀ b ∈ l', p b = true) :
    (l ++ a :: l').rtakeWhile p = l' ∧ (l ++ a :: l').rdropWhile p = l ++ [a] := by
  induction l' using List.reverseRecOn with
  | nil => simp [ha]
  | append_singleton l' b ih =>
    have hb : p b = true := hl b (by simp)
    obtain ⟨htake, hdrop⟩ := ih fun c hc => hl c (by simp [hc])
    have hassoc : l ++ a :: (l' ++ [b]) = (l ++ a :: l') ++ [b] := by simp
    rw [hassoc, List.rtakeWhile_concat_pos _ _ _ hb, List.rdropWhile_concat_pos _ _ _ hb, htake,
      hdrop]
    exact ⟨rfl, rfl⟩

/-- As long as the live bytes fit into a word, they are what the counters read. -/
theorem Heap.levels_eq_readings {h : Heap} (ht : h.Tracked) {actions : List Action}
    (fits : h.Fits actions) : h.levels actions = h.readings actions := by
  have heq : ∀ k ≤ actions.length,
      (h.run (actions.take k)).counters.current.toNat = (h.run (actions.take k)).live := by
    intro k hk
    have hfits : h.Fits (actions.take k) := by
      intro j hj
      rw [List.length_take] at hj
      rw [List.take_take]
      exact fits _ (by omega)
    exact (Heap.tracked_run ht hfits).current
  ext n
  constructor
  · rintro ⟨k, hk, rfl⟩
    exact ⟨k, hk, (heq k hk).symm⟩
  · rintro ⟨k, hk, rfl⟩
    exact ⟨k, hk, heq k hk⟩

/-- The live bytes fit into a word along the first part of a history, and along the second. -/
theorem Heap.fits_append {h : Heap} {actions actions' : List Action}
    (fits : h.Fits (actions ++ actions')) : h.Fits actions ∧ (h.run actions).Fits actions' := by
  constructor
  · intro k hk
    have hfits := fits k (by rw [List.length_append]; omega)
    rwa [List.take_append_of_le_length hk] at hfits
  · intro k hk
    have hfits := fits (actions.length + k) (by rw [List.length_append]; omega)
    rwa [List.take_length_add_append, Heap.run_append] at hfits

/-- The peak, from its last start on, is the greatest number of live bytes. -/
theorem peak_isGreatest_levels {before after : List Action} {a : Action}
    (ha : a.restartsPeak = true) (hkeep : ∀ b ∈ after, b.restartsPeak = false)
    (fits : Heap.Fits {} (before ++ a :: after)) :
    IsGreatest ((Heap.run {} (before ++ [a])).levels after)
      (Heap.run {} (before ++ a :: after)).counters.peak.toNat := by
  have hsplit : before ++ a :: after = (before ++ [a]) ++ after := by simp
  have hstart : Heap.Tracked {} := ⟨rfl, by decide⟩
  have hgreatest := Heap.peak_isGreatest hstart rfl fits
  have hlast : (!a.restartsPeak) = false := by simp [ha]
  have hsince : ∀ b ∈ after, (!b.restartsPeak) = true := fun b hb => by simp [hkeep b hb]
  obtain ⟨htake, hdrop⟩ := rtakeWhile_of_all (fun b => !b.restartsPeak) before hlast hsince
  rw [untilRestart, sinceRestart, htake, hdrop] at hgreatest
  rw [hsplit] at fits
  obtain ⟨hfits, hrest⟩ := Heap.fits_append fits
  rwa [← Heap.levels_eq_readings (Heap.tracked_run hstart hfits) hrest] at hgreatest

/-- A sampler started after any history, and any actions after it that do not start the peak again:
it knows the peak at its last sample, and counts its samples. -/
theorem sampler_of_start (before : List Action) {after : List Action}
    (hkeep : ∀ a ∈ after, a.restartsPeak = false) :
    ∃ s, (Heap.run {} (before ++ .start :: after)).sampler = some s ∧
      s.maxPeak = (Heap.run {} (before ++ .start :: untilSample after)).counters.peak ∧
      s.samples = after.count .sample + 1 := by
  have hsplit : ∀ l : List Action,
      Heap.run {} (before ++ .start :: l) = (Heap.run {} (before ++ [.start])).run l := by
    intro l
    rw [← Heap.run_append, List.append_assoc, List.singleton_append]
  have hstarted : (Heap.run {} (before ++ [.start])).sampler =
      some ⟨(Heap.run {} (before ++ [.start])).counters.peak, 1⟩ := by
    rw [Heap.run_concat]
    simp only [Heap.step, Sampler.start, Sampler.observe, Counters.resetPeak]
    rw [max_eq_of_le UInt64.zero_le]
  obtain ⟨s, hs, hmax, -, hsamples⟩ := Heap.sampler_run hstarted hkeep
  refine ⟨s, ?_, ?_, hsamples⟩
  · rw [hsplit, hs]
  · rw [hsplit, hmax]

/-- What such a sampler knows does not depend on where samples before the last one were taken. -/
theorem maxPeak_of_withoutSamples (before : List Action) {after after' : List Action} {s : Sampler}
    (hkeep : ∀ a ∈ after, a.restartsPeak = false) (hkeep' : ∀ a ∈ after', a.restartsPeak = false)
    (hsame : withoutSamples (untilSample after') = withoutSamples (untilSample after))
    (hs : (Heap.run {} (before ++ .start :: after)).sampler = some s) :
    (Heap.run {} (before ++ .start :: after')).sampler.map (·.maxPeak) = some s.maxPeak := by
  have hpeak : ∀ l : List Action, (Heap.run {} (before ++ .start :: l)).counters =
      ((Heap.run {} (before ++ [.start])).run (withoutSamples l)).counters := by
    intro l
    rw [← (Heap.agree_withoutSamples _ l).2, ← Heap.run_append, List.append_assoc,
      List.singleton_append]
  obtain ⟨s₁, hs₁, hmax₁, -⟩ := sampler_of_start before hkeep
  obtain ⟨s₂, hs₂, hmax₂, -⟩ := sampler_of_start before hkeep'
  obtain rfl := Option.some.inj (hs.symm.trans hs₁)
  rw [hs₂, Option.map_some, hmax₂, hmax₁, hpeak, hpeak, hsame]

/-- What it knows is the greatest number of live bytes between its start and its last sample. -/
theorem maxPeak_isGreatest {before after : List Action} {s : Sampler}
    (hkeep : ∀ a ∈ after, a.restartsPeak = false)
    (fits : Heap.Fits {} (before ++ .start :: after))
    (hs : (Heap.run {} (before ++ .start :: after)).sampler = some s) :
    IsGreatest ((Heap.run {} (before ++ [.start])).levels (untilSample after)) s.maxPeak.toNat := by
  obtain ⟨s₁, hs₁, hmax, -⟩ := sampler_of_start before hkeep
  obtain rfl := Option.some.inj (hs.symm.trans hs₁)
  have hfits : Heap.Fits {} (before ++ .start :: untilSample after) := by
    obtain ⟨rest, hrest⟩ := prefix_untilSample after
    rw [← hrest, ← List.cons_append, ← List.append_assoc] at fits
    exact (Heap.fits_append fits).1
  have huntil : ∀ a ∈ untilSample after, a.restartsPeak = false := by
    intro a ha
    exact hkeep a ((prefix_untilSample after).mem ha)
  rw [hmax]
  exact peak_isGreatest_levels rfl huntil hfits

end BenchRig.Memory
