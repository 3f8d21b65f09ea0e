import BenchRig.Proofs.Pool.Collection

/-!
# Nothing is lost

All calls since a world are those of one unit, of the next, and so on; they are numbered without a
gap. Every unit of a machine can be seen at some phase of its life.
-/

namespace BenchRig.Pool

/-- A list is a permutation of its parts by a key that is below `n`. -/
theorem flatMap_filter_perm {α : Type} (key : α → Nat) {n : Nat} {l : List α}
    (h : ∀ a ∈ l, key a < n) :
    ((List.range n).flatMap fun i => l.filter fun a => key a = i).Perm l := by
  -- Up to `k` places, the parts are what is in `l` with a key below `k`.
  have hbelow : ∀ k, ((List.range k).flatMap fun i => l.filter fun a => key a = i).Perm
      (l.filter fun a => key a < k) := by
    intro k
    induction k with
    | zero => simp
    | succ k ih =>
      have hsplit := List.filter_append_perm (fun a => decide (key a < k))
        (l.filter fun a => key a < k + 1)
      have hold : (l.filter fun a => key a < k + 1).filter (fun a => decide (key a < k)) =
          l.filter fun a => key a < k := by
        rw [List.filter_filter]
        refine List.filter_congr fun a _ => ?_
        rw [← Bool.decide_and, decide_eq_decide]
        omega
      have hnew : (l.filter fun a => key a < k + 1).filter (fun a => !decide (key a < k)) =
          l.filter fun a => key a = k := by
        rw [List.filter_filter]
        refine List.filter_congr fun a _ => ?_
        rw [← decide_not, ← Bool.decide_and, decide_eq_decide]
        omega
      rw [hold, hnew] at hsplit
      rw [List.range_succ, List.flatMap_append, List.flatMap_singleton]
      exact (ih.append_right _).trans hsplit
  have hall : (l.filter fun a => key a < n) = l :=
    List.filter_eq_self.mpr fun a ha => decide_eq_true (h a ha)
  have := hbelow n
  rwa [hall] at this

/-- What is on the left of a pointwise relation is related to something on the right. -/
theorem exists_of_forall₂ {α β : Type} {R : α → β → Prop} {l : List α} {l' : List β}
    (h : List.Forall₂ R l l') {a : α} (ha : a ∈ l) : ∃ b ∈ l', R a b := by
  induction h with
  | nil => cases ha
  | cons hab _ ih =>
    rcases List.mem_cons.mp ha with rfl | hmem
    · exact ⟨_, List.mem_cons_self, hab⟩
    · obtain ⟨b, hb, hR⟩ := ih hmem
      exact ⟨b, List.mem_cons_of_mem _ hb, hR⟩

/-- What stands at one place of a pointwise relation is related. -/
theorem forall₂_getElem? {α β : Type} {R : α → β → Prop} {l : List α} {l' : List β}
    (h : List.Forall₂ R l l') {k : Nat} {a : α} {b : β} (ha : l[k]? = some a)
    (hb : l'[k]? = some b) : R a b := by
  obtain ⟨hk, rfl⟩ := List.getElem?_eq_some_iff.mp ha
  obtain ⟨hk', rfl⟩ := List.getElem?_eq_some_iff.mp hb
  exact h.get hk hk'

namespace World

/-- Calls since a world are numbered from its calls on. -/
theorem numbers_callsSince (base w : World) :
    (base.callsSince w).map (·.2) = List.range' base.calls.size (base.callsSince w).length := by
  simp [callsSince, List.map_drop, List.zipIdx_map_snd, List.drop_range']

end World

section Traced

variable {client : Client} {base : World} {tasks : List Task} {m : Machine} {order : List Nat}

/-- The calls of all units are all calls. -/
theorem Traced.calls_perm (ht : Traced client base tasks m order) :
    ((List.range tasks.length).flatMap (base.callsBy m.world)).Perm (base.callsSince m.world) :=
  flatMap_filter_perm (fun c : Call × Nat => c.1.caller) ht.callers

/-- Every unit is at some phase of its life. -/
theorem Traced.lived (ht : Traced client base tasks m order) {i : Nat} (hi : i < tasks.length) :
    ∃ p, m.LivedAt client base tasks i p := by
  obtain ⟨lane, p, hjob⟩ := ht.exists_job hi
  by_cases hp : p = .collected
  · subst hp
    rcases ht.gathered i lane hjob with hmem | ⟨message, hpanicked⟩
    · obtain ⟨r, -, htaken⟩ := exists_of_forall₂ ht.results hmem
      exact ⟨_, htaken.2⟩
    · exact ⟨_, (ht.panicked i message hpanicked).2⟩
  · exact ⟨p, ht.alive i lane p hjob hp⟩

end Traced

end BenchRig.Pool
