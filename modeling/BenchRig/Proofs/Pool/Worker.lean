import BenchRig.Proofs.Decimal.Spelling
import BenchRig.Proofs.Pool.Life
import Mathlib.Data.List.Induction

/-!
# The life of a fetching worker

A fetching worker makes one call after another, tells the log of each failure before it goes on, and
returns what became of all its calls, in their order. It panics only with one of its calls.
-/

namespace BenchRig.Pool

/-! ## Replies and outcomes -/

/-- What a fetching worker records of replies, in their order. -/
def fetchOutcomes (replies : List Reply) : List Outcome :=
  replies.mapIdx fun j reply => classify (UInt32.ofNat (j + 1)) reply

/-- What the log is told about outcomes: each failure, under the id of the worker. -/
def failureEvents (id : UInt32) (outcomes : List Outcome) : List Log.DispatchEvent :=
  outcomes.filterMap fun o => o.error?.map (.attemptFailed id o.attempt)

/-- What the worker `id` at place `i` tells the log about replies. -/
def fetchTold (i : Nat) (id : UInt32) (replies : List Reply) :
    List (Teller × Log.DispatchEvent) :=
  (failureEvents id (fetchOutcomes replies)).map fun e => (.worker i, e)

/-- Whether a request that was answered so succeeded. -/
def succeeds : Reply → Bool
  | .ok status => status = 200
  | .error _ => false

/-- What is recorded of a request that did not succeed, by its reply. -/
def failureText? : Reply → Option String
  | .ok status =>
    if status = 200 then none else some ("unexpected HTTP status " ++ toString status.toNat)
  | .error f => some (f.cause.label ++ ": " ++ f.message)

theorem attempt_classify (attempt : UInt32) (reply : Reply) :
    (classify attempt reply).attempt = attempt := by
  cases reply with
  | error f => rfl
  | ok status =>
    rw [classify]
    split_ifs <;> rfl

/-- A request succeeds exactly with the status 200. -/
theorem classify_eq_success_iff {attempt a : UInt32} {status : UInt16} {reply : Reply} :
    classify attempt reply = .success a status ↔ a = attempt ∧ status = 200 ∧ reply = .ok 200 := by
  cases reply with
  | error f => simp [classify]
  | ok s =>
    rw [classify]
    split_ifs with hs
    · subst hs
      simp [eq_comm]
    · simp [hs]

/-- Every other request fails, with the status or what stood in its way. -/
theorem classify_eq_failed_iff {attempt a : UInt32} {text : String} {reply : Reply} :
    classify attempt reply = .failed a text ↔ a = attempt ∧ failureText? reply = some text := by
  cases reply with
  | error f => simp [classify, failureText?, Failure.display, eq_comm]
  | ok status =>
    rw [classify, failureText?, Decimal.text_eq_toString]
    split_ifs with hs
    · simp
    · simp [eq_comm]

theorem isSuccess_classify (attempt : UInt32) (reply : Reply) :
    (classify attempt reply).isSuccess = succeeds reply := by
  cases reply with
  | error f => rfl
  | ok status =>
    rw [classify]
    split_ifs with hs
    · simp [Outcome.isSuccess, succeeds, hs]
    · simp [Outcome.isSuccess, succeeds, hs]

theorem length_fetchOutcomes (replies : List Reply) :
    (fetchOutcomes replies).length = replies.length := by
  simp [fetchOutcomes]

theorem fetchOutcomes_concat (replies : List Reply) (reply : Reply) :
    fetchOutcomes (replies ++ [reply]) =
      fetchOutcomes replies ++ [classify (UInt32.ofNat (replies.length + 1)) reply] := by
  simp [fetchOutcomes, List.mapIdx_append]

theorem fetchTold_concat (i : Nat) (id : UInt32) (replies : List Reply) (reply : Reply) :
    fetchTold i id (replies ++ [reply]) = fetchTold i id replies ++
      (failureEvents id [classify (UInt32.ofNat (replies.length + 1)) reply]).map
        fun e => (.worker i, e) := by
  simp [fetchTold, failureEvents, fetchOutcomes_concat]

/-- Outcomes are numbered from one on. -/
theorem attempts_fetchOutcomes (replies : List Reply) :
    (fetchOutcomes replies).map (·.attempt) =
      (List.range replies.length).map fun j => UInt32.ofNat (j + 1) := by
  refine List.ext_getElem (by simp [fetchOutcomes]) fun j hj hj' => ?_
  simp [fetchOutcomes, attempt_classify]

/-- A success is recorded exactly where the reply was the status 200. -/
theorem getElem?_fetchOutcomes_eq_success_iff {replies : List Reply} {j : Nat} {reply : Reply}
    (hj : replies[j]? = some reply) {a : UInt32} {status : UInt16} :
    (fetchOutcomes replies)[j]? = some (.success a status) ↔
      a = UInt32.ofNat (j + 1) ∧ status = 200 ∧ reply = .ok 200 := by
  rw [fetchOutcomes, List.getElem?_mapIdx, hj, Option.map_some, Option.some_inj]
  exact classify_eq_success_iff

/-- A failure is recorded everywhere else, with what the reply says. -/
theorem getElem?_fetchOutcomes_eq_failed_iff {replies : List Reply} {j : Nat} {reply : Reply}
    (hj : replies[j]? = some reply) {a : UInt32} {text : String} :
    (fetchOutcomes replies)[j]? = some (.failed a text) ↔
      a = UInt32.ofNat (j + 1) ∧ failureText? reply = some text := by
  rw [fetchOutcomes, List.getElem?_mapIdx, hj, Option.map_some, Option.some_inj]
  exact classify_eq_failed_iff

/-- Outcomes succeed as often as the reply was the status 200. -/
theorem countP_fetchOutcomes (replies : List Reply) :
    (fetchOutcomes replies).countP (·.isSuccess) = replies.countP succeeds := by
  induction replies using List.reverseRecOn with
  | nil => rfl
  | append_singleton replies reply ih =>
    rw [fetchOutcomes_concat, List.countP_append, List.countP_append, ih]
    simp [List.countP_cons, isSuccess_classify]

/-! ## Calls and replies -/

/-- The calls of the unit at place `i` went to `url`, and were answered with replies. -/
def Answered (client : Client) (i : Nat) (url : String) (calls : List (Call × Nat))
    (replies : List Reply) : Prop :=
  calls.map (fun c => (c.1, client c.2)) =
    replies.map fun reply => (⟨i, url⟩, .reply reply)

section Worker

variable {client : Client} {i : Nat} {url : String} {id : UInt32} {attempts left : Nat}
  {calls : List (Call × Nat)} {told : List (Teller × Log.DispatchEvent)} {replies : List Reply}
  {p : Phase}

theorem Answered.length (h : Answered client i url calls replies) :
    calls.length = replies.length := by
  simpa using congrArg List.length h

theorem Answered.concat (h : Answered client i url calls replies) {k : Nat} {reply : Reply}
    (hk : client k = .reply reply) :
    Answered client i url (calls ++ [(⟨i, url⟩, k)]) (replies ++ [reply]) := by
  unfold Answered at h ⊢
  simp [h, hk]

/-! ## Phases -/

/-- What a fetching worker still does after replies, with `left` calls to be made. -/
def fetchRest (id : UInt32) (url : String) (left : Nat) (replies : List Reply) : Task :=
  fetchFrom id url left (UInt32.ofNat (replies.length + 1)) (fetchOutcomes replies).reverse

/-- What a fetching worker has called and told when it comes to a phase. -/
def FetchPhase (client : Client) (i : Nat) (url : String) (id : UInt32) (attempts : Nat)
    (calls : List (Call × Nat)) (told : List (Teller × Log.DispatchEvent)) : Phase → Prop
  | .waiting t => calls = [] ∧ told = [] ∧ t = fetchRest id url attempts []
  | .active t => ∃ replies left, ∃ events : List Log.DispatchEvent,
      Answered client i url calls replies ∧
      replies.length + left = attempts ∧
      told ++ events.map (fun e => (.worker i, e)) = fetchTold i id replies ∧
      t = events.foldr .tell (fetchRest id url left replies)
  | .calling k next => ∃ replies left before, calls = before ++ [(⟨i, url⟩, k)] ∧
      Answered client i url before replies ∧ replies.length + left + 1 = attempts ∧
      told = fetchTold i id replies ∧
      ∀ reply, next reply =
        (failureEvents id [classify (UInt32.ofNat (replies.length + 1)) reply]).foldr .tell
          (fetchRest id url left (replies ++ [reply]))
  | .ended (.ok r) => ∃ replies, Answered client i url calls replies ∧
      replies.length = attempts ∧ told = fetchTold i id replies ∧
      r = ⟨id, .requests (fetchOutcomes replies)⟩
  | .ended (.error message) => ∃ replies before k, calls = before ++ [(⟨i, url⟩, k)] ∧
      Answered client i url before replies ∧ replies.length + 1 ≤ attempts ∧
      told = fetchTold i id replies ∧ client k = .panic message
  | .collected => False

/-- A failure is told before the worker goes on. -/
theorem tell_failure (id attempt : UInt32) (reply : Reply) (rest : Task) :
    (match (classify attempt reply).error? with
      | some error => .tell (.attemptFailed id attempt error) rest
      | none => rest) = (failureEvents id [classify attempt reply]).foldr .tell rest := by
  have hattempt := attempt_classify attempt reply
  cases he : (classify attempt reply).error? with
  | none => simp [failureEvents, he]
  | some e => simp [failureEvents, he, hattempt]

/-- With calls left, a fetching worker makes the next one, and goes on with how that went. -/
theorem fetchRest_succ (id : UInt32) (url : String) (left : Nat) (replies : List Reply) :
    fetchRest id url (left + 1) replies = .call url fun reply =>
      (failureEvents id [classify (UInt32.ofNat (replies.length + 1)) reply]).foldr .tell
        (fetchRest id url left (replies ++ [reply])) := by
  rw [fetchRest, fetchFrom]
  congr 1
  funext reply
  have hrest : fetchRest id url left (replies ++ [reply]) =
      fetchFrom id url left (UInt32.ofNat (replies.length + 1) + 1)
        (classify (UInt32.ofNat (replies.length + 1)) reply ::
          (fetchOutcomes replies).reverse) := by
    rw [fetchRest, fetchOutcomes_concat, List.length_append, List.reverse_append,
      UInt32.ofNat_add (replies.length + [reply].length) 1]
    rfl
  rw [hrest]
  exact tell_failure id _ reply _

/-- A fetching worker that is active has a failure to tell, has made all its calls, or makes the
next one. -/
theorem fetching_cases {t : Task} {events : List Log.DispatchEvent}
    (h : t = events.foldr .tell (fetchRest id url left replies)) :
    (∃ e events', events = e :: events' ∧
        t = .tell e (events'.foldr .tell (fetchRest id url left replies))) ∨
      (events = [] ∧ left = 0 ∧ t = .done ⟨id, .requests (fetchOutcomes replies)⟩) ∨
      (events = [] ∧ ∃ left', left = left' + 1 ∧ t = .call url fun reply =>
        (failureEvents id [classify (UInt32.ofNat (replies.length + 1)) reply]).foldr .tell
          (fetchRest id url left' (replies ++ [reply]))) := by
  cases events with
  | cons e events' => exact .inl ⟨e, events', rfl, h⟩
  | nil =>
    cases left with
    | zero =>
      rw [List.foldr_nil, fetchRest, fetchFrom, List.reverse_reverse] at h
      exact .inr (.inl ⟨rfl, rfl, h⟩)
    | succ left' =>
      rw [List.foldr_nil, fetchRest_succ] at h
      exact .inr (.inr ⟨rfl, left', rfl, h⟩)

/-- Whenever a fetching worker is seen, its calls and what it told are those of its phase. -/
theorem Lived.fetching (h : Lived client i (fetchFrom id url attempts 1 []) calls told p) :
    FetchPhase client i url id attempts calls told p := by
  induction h with
  | waiting => exact ⟨rfl, rfl, rfl⟩
  | launch h ih =>
    obtain ⟨rfl, rfl, rfl⟩ := ih
    exact ⟨[], attempts, [], rfl, by simp, rfl, rfl⟩
  | done h ih =>
    obtain ⟨replies, left, events, hanswered, hleft, htold, ht⟩ := ih
    rcases fetching_cases ht with ⟨e, events', -, hu⟩ | ⟨rfl, rfl, hu⟩ | ⟨-, left', -, hu⟩
    · cases hu
    · exact ⟨replies, hanswered, hleft, by simpa using htold, Task.done.inj hu⟩
    · cases hu
  | panic h ih =>
    obtain ⟨replies, left, events, hanswered, hleft, htold, ht⟩ := ih
    rcases fetching_cases ht with ⟨e, events', -, hu⟩ | ⟨-, -, hu⟩ | ⟨-, left', -, hu⟩ <;> cases hu
  | call k h ih =>
    obtain ⟨replies, left, events, hanswered, hleft, htold, ht⟩ := ih
    rcases fetching_cases ht with ⟨e, events', -, hu⟩ | ⟨-, -, hu⟩ | ⟨rfl, left', rfl, hu⟩
    · cases hu
    · cases hu
    · obtain ⟨rfl, rfl⟩ := Task.call.inj hu
      exact ⟨replies, left', _, rfl, hanswered, by omega, by simpa using htold, fun _ => rfl⟩
  | tell h ih =>
    obtain ⟨replies, left, events, hanswered, hleft, htold, ht⟩ := ih
    rcases fetching_cases ht with ⟨e, events', rfl, hu⟩ | ⟨-, -, hu⟩ | ⟨-, left', -, hu⟩
    · obtain ⟨rfl, rfl⟩ := Task.tell.inj hu
      exact ⟨replies, left, events', hanswered, hleft, by simpa using htold, rfl⟩
    · cases hu
    · cases hu
  | reply h hr ih =>
    obtain ⟨replies, left, before, rfl, hanswered, hleft, rfl, hnext⟩ := ih
    rename_i r
    exact ⟨replies ++ [r], left, _, hanswered.concat hr, by simp; omega,
      (fetchTold_concat i id replies r).symm, hnext r⟩
  | lost h hm ih =>
    obtain ⟨replies, left, before, rfl, hanswered, hleft, rfl, hnext⟩ := ih
    exact ⟨replies, before, _, rfl, hanswered, by omega, rfl, hm⟩

theorem failure_of_mem_fetchTold {t : Teller × Log.DispatchEvent}
    (h : t ∈ fetchTold i id replies) :
    ∃ attempt error, t = (.worker i, .attemptFailed id attempt error) := by
  obtain ⟨e, he, rfl⟩ := List.mem_map.mp h
  obtain ⟨o, -, ho⟩ := List.mem_filterMap.mp he
  obtain ⟨error, -, rfl⟩ := Option.map_eq_some_iff.mp ho
  exact ⟨_, error, rfl⟩

/-- A fetching worker tells of nothing but failures. -/
theorem FetchPhase.failure_of_mem (h : FetchPhase client i url id attempts calls told p)
    {t : Teller × Log.DispatchEvent} (ht : t ∈ told) :
    ∃ attempt error, t = (.worker i, .attemptFailed id attempt error) := by
  cases p with
  | waiting u =>
    rw [h.2.1] at ht
    cases ht
  | active u =>
    obtain ⟨replies, left, events, -, -, htold, -⟩ := h
    exact failure_of_mem_fetchTold (htold ▸ List.mem_append_left _ ht)
  | calling k next =>
    obtain ⟨replies, left, before, -, -, -, htold, -⟩ := h
    exact failure_of_mem_fetchTold (htold ▸ ht)
  | ended e =>
    cases e with
    | ok r =>
      obtain ⟨replies, -, -, htold, -⟩ := h
      exact failure_of_mem_fetchTold (htold ▸ ht)
    | error message =>
      obtain ⟨replies, before, k, -, -, -, htold, -⟩ := h
      exact failure_of_mem_fetchTold (htold ▸ ht)
  | collected => exact h.elim

end Worker

end BenchRig.Pool
