import BenchRig.Proofs.Pool.Collection

/-!
# What the log hears of a run

While units are waited for, the dispatcher tells the log of one result after another, and counts
them. Units tell the log what they like, but nothing more once their result has been told.
-/

namespace BenchRig.Pool

open Machine (Moved Collected)

/-- What the log is told about a result, by its place in the order of collection. -/
def completion (n k : Nat) (r : WorkerResult) : Teller × Log.DispatchEvent :=
  (.dispatcher, .workerCompleted r.id (k + 1) n)

theorem completion_inj {n k k' : Nat} {r r' : WorkerResult} :
    completion n k r = completion n k' r' ↔ r.id = r'.id ∧ k = k' := by
  simp [completion]

/-- Since `before`, the dispatcher has told of the results of a machine, in their order, and no unit
at the places `order` has told anything after its result was told. -/
structure Logged (n : Nat) (before : World) (m : Machine) (order : List Nat) : Prop where
  ext : before.Extends m.world
  completions : (before.toldSince m.world).filter (fun t => t.1 = .dispatcher) =
    m.results.toList.mapIdx (completion n)
  quiet : ∀ a b k r, before.toldSince m.world = a ++ completion n k r :: b →
    ∃ i, order[k]? = some i ∧ ∀ t ∈ b, t.1 ≠ .worker i

/-- Where an entry stands that is none of the new ones. -/
theorem append_eq_append_cons {α : Type} {old new a b : List α} {c : α}
    (h : old ++ new = a ++ c :: b) (hc : c ∉ new) :
    ∃ b', b = b' ++ new ∧ old = a ++ c :: b' := by
  rcases List.append_eq_append_iff.mp h with ⟨a', -, hnew⟩ | ⟨c', hold, hnew⟩
  · exact absurd (by simp [hnew]) hc
  · cases c' with
    | nil =>
      have hall : c :: b = new := hnew
      exact absurd (hall ▸ List.mem_cons_self) hc
    | cons d b' =>
      obtain ⟨rfl, rfl⟩ := List.cons.inj hnew
      exact ⟨b', rfl, hold⟩

/-- An entry that is none of the old ones can only be the last one. -/
theorem eq_nil_of_append_singleton {α : Type} {old a b : List α} {x c : α}
    (h : old ++ [x] = a ++ c :: b) (hc : c ∉ old) : b = [] := by
  by_cases hx : c = x
  · subst hx
    have hrev : c :: old.reverse = b.reverse ++ c :: a.reverse := by
      simpa using congrArg List.reverse h
    cases hb : b.reverse with
    | nil => simpa using hb
    | cons d b' =>
      rw [hb, List.cons_append] at hrev
      have hmem : c ∈ old.reverse := by
        rw [(List.cons.inj hrev).2]
        simp
      exact absurd (List.mem_reverse.mp hmem) hc
  · obtain ⟨b', -, hold⟩ := append_eq_append_cons h fun hmem => hx (List.mem_singleton.mp hmem)
    exact absurd (by simp [hold]) hc

section Logged

variable {client : Client} {base before : World} {tasks : List Task} {n : Nat}
  {m m' : Machine} {order : List Nat} {i : Nat} {lane : Lane}

theorem logged_start {m : Machine} (hm : m.results = #[]) : Logged n m.world m [] where
  ext := .refl m.world
  completions := by simp [World.toldSince_self, hm]
  quiet := by simp [World.toldSince_self]

/-- What the log has been told of a result, it has been told of a result of the machine. -/
theorem Logged.of_mem (hl : Logged n before m order) {k : Nat} {r : WorkerResult}
    (h : completion n k r ∈ before.toldSince m.world) :
    ∃ r', m.results.toList[k]? = some r' ∧ r'.id = r.id := by
  have hmem : completion n k r ∈ m.results.toList.mapIdx (completion n) := by
    rw [← hl.completions]
    exact List.mem_filter.mpr ⟨h, rfl⟩
  obtain ⟨k', hk', heq⟩ := List.mem_mapIdx.mp hmem
  obtain ⟨hid, rfl⟩ := completion_inj.mp heq
  exact ⟨_, List.getElem?_eq_getElem hk', hid⟩

theorem Logged.moved {p p' : Phase} (hl : Logged n before m order)
    (ht : Traced client base tasks m order) (h : Moved client m m' i lane p p') :
    Logged n before m' order := by
  have hfresh : i ∉ order := fun hmem => by
    obtain ⟨lane', hjob⟩ := ht.taken i hmem
    obtain ⟨-, rfl⟩ := Machine.job_inj h.job hjob
    cases h.acts
  obtain ⟨new, hnew, hown⟩ := World.toldSince_of_acts hl.ext h.acts
  refine ⟨hl.ext.acts h.acts, ?_, fun a b k r hsplit => ?_⟩
  · rw [hnew, List.filter_append, hl.completions, h.results, List.append_right_eq_self]
    exact List.filter_eq_nil_iff.mpr fun t hmem => by simp [hown t hmem]
  · rw [hnew] at hsplit
    obtain ⟨b', rfl, hold⟩ := append_eq_append_cons hsplit fun hmem => by
      cases hown _ hmem
    obtain ⟨j, hj, hquiet⟩ := hl.quiet a b' k r hold
    refine ⟨j, hj, fun t hmem => ?_⟩
    rcases List.mem_append.mp hmem with hmem | hmem
    · exact hquiet t hmem
    · rw [hown t hmem]
      intro hij
      obtain rfl := Teller.worker.inj hij
      exact hfresh (List.mem_of_getElem? hj)

theorem Logged.stirred (hl : Logged n before m order) (ht : Traced client base tasks m order)
    (h : Stirred client m m') : Logged n before m' order := by
  cases h with
  | act h => exact hl.moved ht h
  | use a =>
    exact ⟨hl.ext.use a, by simpa [Machine.use] using hl.completions,
      by simpa [Machine.use] using hl.quiet⟩

theorem Logged.collect {r : WorkerResult} (hl : Logged n before m order)
    (ht : Traced client base tasks m order) (h : Collected m m' i lane (.ok r)) :
    Logged n before (m'.tell (.workerCompleted r.id m'.results.size n)) (order ++ [i]) := by
  have hlength : order.length = m.results.size := by simpa using ht.results.length_eq
  have hresults : m'.results.toList = m.results.toList ++ [r] := h.results
  have hsize : m'.results.size = m.results.size + 1 := by
    rw [← Array.length_toList, hresults]
    simp
  have hnew : before.toldSince (m'.tell (.workerCompleted r.id m'.results.size n)).world =
      before.toldSince m.world ++ [completion n m.results.size r] := by
    rw [Machine.tell, h.world, hsize]
    exact World.toldSince_tell hl.ext _ _
  refine ⟨?_, ?_, fun a b k r' hsplit => ?_⟩
  · rw [Machine.tell, h.world]
    exact hl.ext.tell _ _
  · rw [hnew, List.filter_append, hl.completions, Machine.tell_results, hresults,
      List.mapIdx_append]
    simp [completion]
  · rw [hnew] at hsplit
    by_cases hlast : k = m.results.size
    · have hnot : completion n k r' ∉ before.toldSince m.world := fun hmem => by
        obtain ⟨r'', hr'', -⟩ := hl.of_mem hmem
        have := (List.getElem?_eq_some_iff.mp hr'').1
        simp at this
        omega
      refine ⟨i, by rw [hlast, ← hlength, List.getElem?_concat_length], ?_⟩
      simp [eq_nil_of_append_singleton hsplit hnot]
    · have hnot : completion n k r' ∉ [completion n m.results.size r] := fun hmem =>
        hlast (completion_inj.mp (List.mem_singleton.mp hmem)).2
      obtain ⟨b', rfl, hold⟩ := append_eq_append_cons hsplit hnot
      obtain ⟨j, hj, hquiet⟩ := hl.quiet a b' k r' hold
      refine ⟨j, ?_, fun t hmem => ?_⟩
      · rw [List.getElem?_append_left (List.getElem?_eq_some_iff.mp hj).1, hj]
      · rcases List.mem_append.mp hmem with hmem | hmem
        · exact hquiet t hmem
        · rw [List.mem_singleton.mp hmem]
          simp [completion]

theorem Logged.stop {message : String} (hl : Logged n before m order)
    (h : Collected m m' i lane (.error message)) : Logged n before m' order := by
  have hresults : m'.results.toList = m.results.toList ++ [] := h.results
  rw [List.append_nil] at hresults
  refine ⟨h.world ▸ hl.ext, ?_, h.world ▸ hl.quiet⟩
  rw [h.world, hl.completions, hresults]

end Logged

/-! ## The order of results -/

/-- The place whose result is collected when an event happens, if one is. -/
def resultAt (w : Watched) : Event → Option Nat
  | .collect i =>
    match w.1.collect? i with
    | some (_, .ok _) => some i
    | _ => none
  | _ => none

/-- The places whose results are collected while events happen one after another, in that order. -/
def resultsAlong (client : Client) (n : Nat) : Watched → List Event → List Nat
  | _, [] => []
  | w, e :: es => (resultAt w e).toList ++ resultsAlong client n (happen client n w e) es

/-- The places whose results are collected while units are waited for, in that order. -/
def awaitOrder (client : Client) (course : Course) (n : Nat) (w : Watched) : List Nat :=
  let (m, sampler) := course.late.foldl (happen client n) w
  resultsAlong client n w course.late ++
    resultsAlong client n (m.runAll client, sampler) ((List.range n).map .collect)

/-- The machine that is waited for is traced from `base` on, and logged from `before` on, with
results from the places `order`. -/
structure Followed (client : Client) (base before : World) (tasks : List Task) (n : Nat)
    (order : List Nat) (m : Machine) : Prop where
  traced : Traced client base tasks m order
  logged : Logged n before m order

section Followed

variable {client : Client} {base before : World} {tasks : List Task} {n : Nat}
  {order : List Nat}

theorem Followed.plays {m m' : Machine} (hf : Followed client base before tasks n order m)
    (h : Plays client m m') : Followed client base before tasks n order m' :=
  h.invariant
    (fun hstir hm => ⟨hm.traced.stirred hstir, hm.logged.stirred hm.traced hstir⟩) hf

theorem Followed.collectOne {w : Watched} (hf : Followed client base before tasks n order w.1)
    (i : Nat) :
    Followed client base before tasks n (order ++ (resultAt w (.collect i)).toList)
      (collectOne n w i).1 := by
  cases hcollect : w.1.collect? i with
  | none => simpa [Pool.collectOne, resultAt, hcollect] using hf
  | some c =>
    obtain ⟨m, e⟩ := c
    obtain ⟨lane, hc⟩ := Machine.collected_of_collect? hcollect
    cases e with
    | ok r =>
      simp only [Pool.collectOne, resultAt, hcollect]
      exact ⟨(hf.traced.collected hc).tell _, hf.logged.collect hf.traced hc⟩
    | error message =>
      simp only [Pool.collectOne, resultAt, hcollect]
      exact ⟨hf.traced.collected hc, by simpa using hf.logged.stop hc⟩

theorem Followed.happen {w : Watched} (hf : Followed client base before tasks n order w.1)
    (e : Event) :
    Followed client base before tasks n (order ++ (resultAt w e).toList)
      (happen client n w e).1 := by
  cases e with
  | submit lane t => simpa [resultAt, Pool.happen] using hf
  | move v => simpa [resultAt, Pool.happen] using hf.plays (plays_play client w.1 v)
  | memory a => simpa [resultAt, Pool.happen] using hf.plays (.single (.use a))
  | collect i => exact hf.collectOne i

theorem Followed.along {w : Watched} (hf : Followed client base before tasks n order w.1)
    (es : List Event) :
    Followed client base before tasks n (order ++ resultsAlong client n w es)
      (es.foldl (Pool.happen client n) w).1 := by
  induction es generalizing w order with
  | nil => simpa [resultsAlong] using hf
  | cons e es ih =>
    rw [resultsAlong, ← List.append_assoc]
    exact ih (hf.happen e)

/-- Waiting for units keeps what is known of lives, results and the log. -/
theorem Followed.await {w : Watched} (hf : Followed client base before tasks n order w.1)
    (course : Course) :
    Followed client base before tasks n (order ++ awaitOrder client course n w)
      (await client course n w).1 := by
  have hlate := hf.along course.late
  have hlast := (hlate.plays (plays_runAll client _)).along
    (w := ((course.late.foldl (Pool.happen client n) w).1.runAll client,
      (course.late.foldl (Pool.happen client n) w).2)) ((List.range n).map .collect)
  rw [List.append_assoc, List.foldl_map] at hlast
  exact hlast

end Followed

end BenchRig.Pool
