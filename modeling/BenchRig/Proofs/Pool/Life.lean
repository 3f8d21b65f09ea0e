import BenchRig.Proofs.Pool.Progress

/-!
# Lives of units

Units act in any order, but what a unit has called and told so far, and the phase it is in, are
those of the unit alone: the run of a pool, seen from one place, is a life of the task submitted
there.
Collecting takes each unit once, in an order that the results follow.
-/

namespace BenchRig.Pool

open Machine (Moved Collected)

/-! ## One life -/

/-- What a unit at place `i` with the task `t` can have called and told, and the phase that it can
have come to. -/
inductive Lived (client : Client) (i : Nat) (t : Task) :
    List (Call × Nat) → List (Teller × Log.DispatchEvent) → Phase → Prop where
  | waiting : Lived client i t [] [] (.waiting t)
  | launch {calls : List (Call × Nat)} {told : List (Teller × Log.DispatchEvent)} {u : Task}
      (h : Lived client i t calls told (.waiting u)) : Lived client i t calls told (.active u)
  | done {calls : List (Call × Nat)} {told : List (Teller × Log.DispatchEvent)}
      {r : WorkerResult} (h : Lived client i t calls told (.active (.done r))) :
      Lived client i t calls told (.ended (.ok r))
  | panic {calls : List (Call × Nat)} {told : List (Teller × Log.DispatchEvent)}
      {message : String} (h : Lived client i t calls told (.active (.panic message))) :
      Lived client i t calls told (.ended (.error message))
  | call {calls : List (Call × Nat)} {told : List (Teller × Log.DispatchEvent)} {url : String}
      {next : Reply → Task} (k : Nat)
      (h : Lived client i t calls told (.active (.call url next))) :
      Lived client i t (calls ++ [(⟨i, url⟩, k)]) told (.calling k next)
  | tell {calls : List (Call × Nat)} {told : List (Teller × Log.DispatchEvent)}
      {e : Log.DispatchEvent} {next : Task}
      (h : Lived client i t calls told (.active (.tell e next))) :
      Lived client i t calls (told ++ [(.worker i, e)]) (.active next)
  | reply {calls : List (Call × Nat)} {told : List (Teller × Log.DispatchEvent)} {k : Nat}
      {next : Reply → Task} {r : Reply} (h : Lived client i t calls told (.calling k next))
      (hr : client k = .reply r) : Lived client i t calls told (.active (next r))
  | lost {calls : List (Call × Nat)} {told : List (Teller × Log.DispatchEvent)} {k : Nat}
      {next : Reply → Task} {message : String} (h : Lived client i t calls told (.calling k next))
      (hm : client k = .panic message) :
      Lived client i t calls told (.ended (.error message))

/-! ## What units did -/

namespace World

/-- What was in a world is still there. -/
structure Extends (base w : World) : Prop where
  calls : base.calls.toList <+: w.calls.toList
  told : base.told.toList <+: w.told.toList

/-- The calls made since `base`, with their numbers. -/
def callsSince (base w : World) : List (Call × Nat) :=
  w.calls.toList.zipIdx.drop base.calls.size

/-- What the log was told since `base`. -/
def toldSince (base w : World) : List (Teller × Log.DispatchEvent) :=
  w.told.toList.drop base.told.size

/-- The calls made by the unit at place `i` since `base`. -/
def callsBy (base w : World) (i : Nat) : List (Call × Nat) :=
  (base.callsSince w).filter fun c => c.1.caller = i

/-- What the unit at place `i` told the log since `base`. -/
def toldBy (base w : World) (i : Nat) : List (Teller × Log.DispatchEvent) :=
  (base.toldSince w).filter fun t => t.1 = .worker i

theorem Extends.refl (w : World) : Extends w w := ⟨List.prefix_rfl, List.prefix_rfl⟩

theorem Extends.trans {w₁ w₂ w₃ : World} (h : Extends w₁ w₂) (h' : Extends w₂ w₃) :
    Extends w₁ w₃ := ⟨h.calls.trans h'.calls, h.told.trans h'.told⟩

section Since

variable {base w : World}

theorem Extends.size_calls (h : Extends base w) : base.calls.size ≤ w.calls.size := by
  simpa using h.calls.length_le

theorem Extends.size_told (h : Extends base w) : base.told.size ≤ w.told.size := by
  simpa using h.told.length_le

theorem callsSince_startCall (h : Extends base w) (c : Call) :
    base.callsSince (w.startCall c) = base.callsSince w ++ [(c, w.calls.size)] := by
  have hle : base.calls.size ≤ w.calls.toList.zipIdx.length := by simpa using h.size_calls
  simp only [callsSince, startCall, Array.toList_push, List.zipIdx_append]
  rw [List.drop_append_of_le_length hle]
  simp

theorem toldSince_tell (h : Extends base w) (teller : Teller) (e : Log.DispatchEvent) :
    base.toldSince (w.tell teller e) = base.toldSince w ++ [(teller, e)] := by
  have hle : base.told.size ≤ w.told.toList.length := by simpa using h.size_told
  simp only [toldSince, tell, Array.toList_push]
  rw [List.drop_append_of_le_length hle]

@[simp] theorem callsSince_use (a : Memory.Action) :
    base.callsSince (w.use a) = base.callsSince w := by
  simp [callsSince]

@[simp] theorem toldSince_use (a : Memory.Action) :
    base.toldSince (w.use a) = base.toldSince w := by
  simp [toldSince]

@[simp] theorem callsBy_use (a : Memory.Action) (i : Nat) :
    base.callsBy (w.use a) i = base.callsBy w i := by
  simp [callsBy]

@[simp] theorem toldBy_use (a : Memory.Action) (i : Nat) :
    base.toldBy (w.use a) i = base.toldBy w i := by
  simp [toldBy]

@[simp] theorem callsSince_tell (teller : Teller) (e : Log.DispatchEvent) :
    base.callsSince (w.tell teller e) = base.callsSince w := rfl

@[simp] theorem toldSince_startCall (c : Call) :
    base.toldSince (w.startCall c) = base.toldSince w := rfl

theorem callsSince_self : w.callsSince w = [] := by simp [callsSince]

theorem toldSince_self : w.toldSince w = [] := by simp [toldSince]

/-- What was told since `base` was told up to `w`, or since. -/
theorem toldSince_append {w' : World} (h : Extends base w) (h' : Extends w w') :
    base.toldSince w' = base.toldSince w ++ w.toldSince w' := by
  obtain ⟨rest, hrest⟩ := h'.told
  have hle : base.told.size ≤ w.told.toList.length := by simpa using h.size_told
  have hnew : List.drop w.told.size (w.told.toList ++ rest) = rest :=
    List.drop_left' Array.length_toList
  simp only [toldSince, ← hrest]
  rw [List.drop_append_of_le_length hle, hnew]

theorem Extends.tell (h : Extends base w) (teller : Teller) (e : Log.DispatchEvent) :
    Extends base (w.tell teller e) :=
  ⟨h.calls, by
    simp only [World.tell, Array.toList_push]
    exact h.told.trans (List.prefix_append _ _)⟩

theorem Extends.use (h : Extends base w) (a : Memory.Action) : Extends base (w.use a) :=
  ⟨by simpa using h.calls, by simpa using h.told⟩

theorem Extends.acts {client : Client} {i : Nat} {w' : World} {p p' : Phase}
    (h : Extends base w) (ha : Acts client i w p p' w') : Extends base w' := by
  cases ha with
  | call url next =>
    refine ⟨?_, h.told⟩
    simp only [startCall, Array.toList_push]
    exact h.calls.trans (List.prefix_append _ _)
  | tell e next => exact h.tell _ e
  | _ => exact h

theorem Extends.stirred {client : Client} {m m' : Machine} (h : Extends base m.world)
    (hstir : Stirred client m m') : Extends base m'.world := by
  cases hstir with
  | act hmove => exact h.acts hmove.acts
  | use a => exact h.use a

/-- New calls are made by the unit that acts. -/
theorem callsSince_of_acts {client : Client} {i : Nat} {w' : World} {p p' : Phase}
    (h : Extends base w) (ha : Acts client i w p p' w') :
    ∃ new, base.callsSince w' = base.callsSince w ++ new ∧ ∀ c ∈ new, c.1.caller = i := by
  cases ha with
  | call url next => exact ⟨_, callsSince_startCall h _, by simp⟩
  | _ => exact ⟨[], by simp, by simp⟩

/-- What is told is told by the unit that acts. -/
theorem toldSince_of_acts {client : Client} {i : Nat} {w' : World} {p p' : Phase}
    (h : Extends base w) (ha : Acts client i w p p' w') :
    ∃ new, base.toldSince w' = base.toldSince w ++ new ∧ ∀ t ∈ new, t.1 = .worker i := by
  cases ha with
  | tell e next => exact ⟨_, toldSince_tell h _ e, by simp⟩
  | _ => exact ⟨[], by simp, by simp⟩

/-- What a unit does is seen at its own place only. -/
theorem callsBy_of_acts {client : Client} {i j : Nat} {w' : World} {p p' : Phase}
    (h : Extends base w) (ha : Acts client i w p p' w') (hj : j ≠ i) :
    base.callsBy w' j = base.callsBy w j := by
  obtain ⟨new, hnew, hown⟩ := callsSince_of_acts h ha
  rw [callsBy, hnew, List.filter_append, List.append_right_eq_self.mpr]
  · rfl
  · exact List.filter_eq_nil_iff.mpr fun c hc => by simp [hown c hc, Ne.symm hj]

theorem toldBy_of_acts {client : Client} {i j : Nat} {w' : World} {p p' : Phase}
    (h : Extends base w) (ha : Acts client i w p p' w') (hj : j ≠ i) :
    base.toldBy w' j = base.toldBy w j := by
  obtain ⟨new, hnew, hown⟩ := toldSince_of_acts h ha
  rw [toldBy, hnew, List.filter_append, List.append_right_eq_self.mpr]
  · rfl
  · exact List.filter_eq_nil_iff.mpr fun t ht => by simp [hown t ht, Ne.symm hj]

/-- What the dispatcher tells is seen at no place. -/
theorem toldBy_tell_dispatcher (h : Extends base w) (e : Log.DispatchEvent) (i : Nat) :
    base.toldBy (w.tell .dispatcher e) i = base.toldBy w i := by
  simp [toldBy, toldSince_tell h]

end Since

end World

/-- Without the dispatcher, only units tell the log. -/
theorem Stirred.told_worker {client : Client} {base : World} {m m' : Machine}
    (h : Stirred client m m') (hext : base.Extends m.world)
    (hold : ∀ t ∈ base.toldSince m.world, t.1 ≠ .dispatcher) :
    ∀ t ∈ base.toldSince m'.world, t.1 ≠ .dispatcher := by
  cases h with
  | act hmove =>
    obtain ⟨new, hnew, hown⟩ := World.toldSince_of_acts hext hmove.acts
    intro t hmem
    rw [hnew, List.mem_append] at hmem
    rcases hmem with hmem | hmem
    · exact hold t hmem
    · simp [hown t hmem]
  | use a => simpa [Machine.use] using hold

/-- A life goes on with what its unit does. -/
theorem Lived.acts {client : Client} {base w w' : World} {i : Nat} {t : Task} {p p' : Phase}
    (h : Lived client i t (base.callsBy w i) (base.toldBy w i) p) (hext : base.Extends w)
    (ha : Acts client i w p p' w') :
    Lived client i t (base.callsBy w' i) (base.toldBy w' i) p' := by
  unfold World.callsBy World.toldBy at h ⊢
  cases ha with
  | launch t => exact h.launch
  | done r => exact h.done
  | panic message => exact h.panic
  | call url next =>
    rw [World.callsSince_startCall hext, World.toldSince_startCall, List.filter_append]
    simpa using h.call w.calls.size
  | tell e next =>
    rw [World.toldSince_tell hext, World.callsSince_tell, List.filter_append]
    simpa using h.tell
  | reply next hr => exact h.reply hr
  | lost next hm => exact h.lost hm

end BenchRig.Pool
