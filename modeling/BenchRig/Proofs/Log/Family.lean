import BenchRig.Log.Logger
import Mathlib.Tactic.Cases
import Mathlib.Tactic.SplitIfs

/-!
# Families of loggers

The members of a family share their session and the place where entries go, and each has a level of
its own. What has been done with a family, the latest operation first, decides which levels its
members have, which session they are in, and which lines they have written.
-/

namespace BenchRig.Log

/-- What can be done with the members of a family. -/
inductive Operation where
  /-- A new member is made like member `i`. -/
  | clone (i : Nat)
  /-- The level of member `i` is set. -/
  | setLevel (i : Nat) (level : Level)
  /-- The session is set through member `i`. -/
  | setSession (i : Nat) (id : String)
  /-- Something is logged through member `i`. -/
  | log (i : Nat) (moment : Moment) (event : Event)

/-- The family after an operation; nothing can be done through a member that does not exist. -/
def Family.apply (f : Family) : Operation → Family
  | .clone i => f.clone i
  | .setLevel i level => f.setLevel i level
  | .setSession i id => if i < f.members.length then f.setSession id else f
  | .log i moment e => f.log i moment e

/-- The family of one logger after operations, the latest one first. -/
def Logger.after (l : Logger) : List Operation → Family
  | [] => .single l
  | op :: past => (l.after past).apply op

/-- The logger with another level. -/
def Logger.withLevel (l : Logger) (level : Level) : Logger := { l with threshold := level }

/-- The line that a logger writes for an event that reaches its level. -/
def Logger.line (l : Logger) (session : Option String) (moment : Moment) (e : Event) : String :=
  l.render { l.entry moment e with fields := withSession session (.ofList e.fields) }

/-! ## What the past decides -/

/-- How many members operations have made. -/
def population : List Operation → Nat
  | [] => 1
  | .clone i :: past => if i < population past then population past + 1 else population past
  | _ :: past => population past

/-- The level of member `i`, where the first member began with level `first`. -/
inductive HasLevel (first : Level) : List Operation → Nat → Level → Prop where
  /-- The first member begins with its level. -/
  | origin : HasLevel first [] 0 first
  /-- A level that is set replaces the old one. -/
  | set {past : List Operation} {i : Nat} {old : Level} (level : Level)
      (h : HasLevel first past i old) : HasLevel first (.setLevel i level :: past) i level
  /-- A new member has the level that its origin has when it is made. -/
  | inherit {past : List Operation} {i : Nat} {level : Level} (h : HasLevel first past i level) :
      HasLevel first (.clone i :: past) (population past) level
  /-- Nothing else changes the level. -/
  | keep {past : List Operation} {i : Nat} {level : Level} {op : Operation}
      (h : HasLevel first past i level) (hop : ∀ new, op ≠ .setLevel i new) :
      HasLevel first (op :: past) i level

/-- The session that all members are in. -/
inductive InSession : List Operation → Option String → Prop where
  /-- There is none at first. -/
  | start : InSession [] none
  /-- It is set through any member. -/
  | set {past : List Operation} {i : Nat} (id : String) (hi : i < population past) :
      InSession (.setSession i id :: past) (some id)
  /-- Nothing else changes it. -/
  | keep {past : List Operation} {session : Option String} {op : Operation}
      (h : InSession past session) (hop : ∀ i id, op = .setSession i id → population past ≤ i) :
      InSession (op :: past) session

/-- The lines that a family has written, in the order of its operations. -/
inductive Emits (l : Logger) : List Operation → List String → Prop where
  /-- None at first. -/
  | nil : Emits l [] []
  /-- One more for an event that reaches the level of the member it is logged through. -/
  | line {past : List Operation} {lines : List String} {i : Nat} {level : Level} {e : Event}
      {session : Option String} (moment : Moment) (h : Emits l past lines)
      (hlevel : HasLevel l.threshold past i level) (hreach : level.rank ≤ e.level.rank)
      (hsession : InSession past session) :
      Emits l (.log i moment e :: past) (lines ++ [l.line session moment e])
  /-- None for an event that does not. -/
  | gated {past : List Operation} {lines : List String} {i : Nat} {e : Event} (moment : Moment)
      (h : Emits l past lines)
      (hgate : ∀ level, HasLevel l.threshold past i level → e.level.rank < level.rank) :
      Emits l (.log i moment e :: past) lines
  /-- None for anything else. -/
  | quiet {past : List Operation} {lines : List String} {op : Operation} (h : Emits l past lines)
      (hop : ∀ i moment e, op ≠ .log i moment e) : Emits l (op :: past) lines

section Past

variable {l : Logger} {first level : Level} {past : List Operation} {f : Family} {i : Nat}

/-! ## One operation -/

/-- A new member has the level of its origin; all others keep theirs. -/
theorem hasLevel_clone_iff {j : Nat} :
    HasLevel first (.clone j :: past) i level ↔
      HasLevel first past i level ∨ (i = population past ∧ HasLevel first past j level) := by
  constructor
  · intro h
    cases h with
    | inherit h => exact .inr ⟨rfl, h⟩
    | keep h _ => exact .inl h
  · rintro (h | ⟨rfl, h⟩)
    · exact .keep h (by simp)
    · exact .inherit h

/-- Setting the level of a member changes the level of no other. -/
theorem hasLevel_setLevel_iff {j : Nat} {new : Level} :
    HasLevel first (.setLevel j new :: past) i level ↔
      (i = j ∧ level = new ∧ ∃ old, HasLevel first past i old) ∨
        (i ≠ j ∧ HasLevel first past i level) := by
  constructor
  · intro h
    cases h with
    | set _ h => exact .inl ⟨rfl, rfl, _, h⟩
    | keep h hop =>
      refine .inr ⟨?_, h⟩
      rintro rfl
      exact hop new rfl
  · rintro (⟨rfl, rfl, old, h⟩ | ⟨hne, h⟩)
    · exact .set level h
    · refine .keep h ?_
      rintro _ ⟨⟩
      exact hne rfl

/-- An operation that makes no member and sets no level changes no level. -/
theorem hasLevel_cons_iff {op : Operation} (hclone : ∀ j, op ≠ .clone j)
    (hset : ∀ j new, op ≠ .setLevel j new) :
    HasLevel first (op :: past) i level ↔ HasLevel first past i level := by
  constructor
  · intro h
    cases h with
    | set _ _ => exact absurd rfl (hset _ _)
    | inherit _ => exact absurd rfl (hclone _)
    | keep h _ => exact h
  · intro h
    exact .keep h (hset i)

theorem inSession_setSession_iff {id : String} {session : Option String} :
    InSession (.setSession i id :: past) session ↔
      (i < population past ∧ session = some id) ∨
        (population past ≤ i ∧ InSession past session) := by
  constructor
  · intro h
    cases h with
    | set _ hi => exact .inl ⟨hi, rfl⟩
    | keep h hop => exact .inr ⟨hop i id rfl, h⟩
  · rintro (⟨hi, rfl⟩ | ⟨hi, h⟩)
    · exact .set id hi
    · refine .keep h ?_
      rintro _ _ ⟨⟩
      exact hi

theorem inSession_cons_iff {op : Operation} {session : Option String}
    (hop : ∀ j id, op ≠ .setSession j id) :
    InSession (op :: past) session ↔ InSession past session := by
  constructor
  · intro h
    cases h with
    | set _ _ => exact absurd rfl (hop _ _)
    | keep h _ => exact h
  · intro h
    exact .keep h fun j id heq => absurd heq (hop j id)

theorem emits_cons_iff {op : Operation} {lines : List String}
    (hop : ∀ i moment e, op ≠ .log i moment e) :
    Emits l (op :: past) lines ↔ Emits l past lines := by
  constructor
  · intro h
    cases h with
    | line _ _ _ _ _ => exact absurd rfl (hop _ _ _)
    | gated _ _ _ => exact absurd rfl (hop _ _ _)
    | quiet h _ => exact h
  · intro h
    exact .quiet h hop

theorem emits_log_iff {moment : Moment} {e : Event} {lines : List String} :
    Emits l (.log i moment e :: past) lines ↔
      (∃ before level session, Emits l past before ∧ HasLevel l.threshold past i level ∧
          level.rank ≤ e.level.rank ∧ InSession past session ∧
          lines = before ++ [l.line session moment e]) ∨
        (Emits l past lines ∧
          ∀ level, HasLevel l.threshold past i level → e.level.rank < level.rank) := by
  constructor
  · intro h
    cases h with
    | line _ h hlevel hreach hsession =>
      exact .inl ⟨_, _, _, h, hlevel, hreach, hsession, rfl⟩
    | gated _ h hgate => exact .inr ⟨h, hgate⟩
    | quiet _ hop => exact absurd rfl (hop _ _ _)
  · rintro (⟨before, level, session, h, hlevel, hreach, hsession, rfl⟩ | ⟨h, hgate⟩)
    · exact .line moment h hlevel hreach hsession
    · exact .gated moment h hgate

/-- How a family stands to what has been done with it. -/
structure Mirrors (l : Logger) (past : List Operation) (f : Family) : Prop where
  length : f.members.length = population past
  uniform : ∀ (i : Nat) (k : Logger), f.members[i]? = some k → k = l.withLevel k.threshold
  level : ∀ i level, HasLevel l.threshold past i level ↔ f.members[i]? = some (l.withLevel level)
  session : ∀ session, InSession past session ↔ f.session = session
  written : ∀ lines, Emits l past lines ↔ f.written = lines

theorem mirrors_single (l : Logger) : Mirrors l [] (.single l) where
  length := rfl
  uniform i k hk := by
    rw [Family.single, List.getElem?_singleton] at hk
    split_ifs at hk
    obtain rfl := Option.some.inj hk
    rfl
  level i level := by
    constructor
    · rintro ⟨⟩
      rfl
    · intro hk
      rw [Family.single, List.getElem?_singleton] at hk
      split_ifs at hk with hi
      obtain rfl : l.threshold = level := congrArg Logger.threshold (Option.some.inj hk)
      exact hi ▸ .origin
  session session := by
    constructor
    · rintro ⟨⟩
      rfl
    · rintro rfl
      exact .start
  written lines := by
    constructor
    · rintro ⟨⟩
      rfl
    · rintro rfl
      exact .nil

theorem Mirrors.exists_level (h : Mirrors l past f) {k : Logger} (hk : f.members[i]? = some k) :
    HasLevel l.threshold past i k.threshold := by
  rw [h.level, ← h.uniform i k hk]
  exact hk

/-- The members after one of them is cloned: the old ones, and behind them the new one. -/
theorem Family.getElem?_clone (f : Family) (i j : Nat) :
    (f.clone j).members[i]? = if i = f.members.length then f.members[j]? else f.members[i]? := by
  have hout : ∀ k, f.members.length ≤ k → f.members[k]? = none := fun k hk => by simpa using hk
  cases hj : f.members[j]? with
  | none =>
    have hclone : (f.clone j).members = f.members := by simp [Family.clone, hj]
    rw [hclone]
    split_ifs with hi
    · exact hout i (Nat.le_of_eq hi.symm)
    · rfl
  | some k =>
    have hclone : (f.clone j).members = f.members ++ [k] := by simp [Family.clone, hj]
    rw [hclone]
    split_ifs with hi
    · subst hi
      simp
    · rcases Nat.lt_or_gt_of_ne hi with hlt | hgt
      · exact List.getElem?_append_left hlt
      · rw [hout i (Nat.le_of_lt hgt), List.getElem?_eq_none_iff, List.length_append]
        exact hgt

theorem Mirrors.clone (h : Mirrors l past f) (j : Nat) :
    Mirrors l (.clone j :: past) (f.clone j) where
  length := by
    have hlength : (f.clone j).members.length =
        f.members.length + if j < f.members.length then 1 else 0 := by
      by_cases hj : j < f.members.length
      · simp [Family.clone, hj]
      · simp [Family.clone, hj]
    rw [hlength, h.length, population]
    split_ifs <;> rfl
  uniform i k hk := by
    rw [Family.getElem?_clone] at hk
    split_ifs at hk with hi
    · exact h.uniform j k hk
    · exact h.uniform i k hk
  level i level := by
    rw [hasLevel_clone_iff, Family.getElem?_clone, h.level, h.level, ← h.length]
    split_ifs with hi
    · simp [hi]
    · simp [hi]
  session session := by
    rw [inSession_cons_iff (by simp), h.session]
    rfl
  written lines := by
    rw [emits_cons_iff (by simp), h.written]
    rfl

theorem Mirrors.setLevel (h : Mirrors l past f) (j : Nat) (new : Level) :
    Mirrors l (.setLevel j new :: past) (f.setLevel j new) where
  length := by
    rw [Family.setLevel, List.length_modify, h.length]
    rfl
  uniform i k hk := by
    rw [Family.setLevel, List.getElem?_modify] at hk
    obtain ⟨k₀, hk₀, rfl⟩ := Option.map_eq_some_iff.mp hk
    have hk₁ := h.uniform i k₀ hk₀
    split_ifs
    · rw [hk₁]
      rfl
    · exact hk₁
  level i level := by
    rw [hasLevel_setLevel_iff, Family.setLevel, List.getElem?_modify, h.level]
    by_cases hi : i = j
    · subst hi
      simp only [true_and, ne_eq, not_true_eq_false, false_and, or_false, if_true]
      constructor
      · rintro ⟨rfl, old, hold⟩
        rw [(h.level i old).mp hold]
        rfl
      · intro hk
        obtain ⟨k, hk, hlevel⟩ := Option.map_eq_some_iff.mp hk
        exact ⟨(congrArg Logger.threshold hlevel).symm, k.threshold, h.exists_level hk⟩
    · simp [hi, Ne.symm hi]
  session session := by
    rw [inSession_cons_iff (by simp), h.session]
    rfl
  written lines := by
    rw [emits_cons_iff (by simp), h.written]
    rfl

theorem Mirrors.setSession (h : Mirrors l past f) (j : Nat) (id : String) :
    Mirrors l (.setSession j id :: past) (f.apply (.setSession j id)) := by
  have hmembers : (f.apply (.setSession j id)).members = f.members := by
    simp only [Family.apply]
    split_ifs <;> rfl
  have hwritten : (f.apply (.setSession j id)).written = f.written := by
    simp only [Family.apply]
    split_ifs <;> rfl
  constructor
  case length =>
    rw [hmembers, h.length]
    rfl
  case uniform =>
    rw [hmembers]
    exact h.uniform
  case level =>
    intro i level
    rw [hasLevel_cons_iff (by simp) (by simp), hmembers, h.level]
  case session =>
    intro session
    rw [inSession_setSession_iff, Family.apply, h.length, h.session]
    split_ifs with hj
    · have hle : ¬ population past ≤ j := by omega
      simp [hj, hle, Family.setSession, eq_comm]
    · have hle : population past ≤ j := by omega
      simp [hj, hle]
  case written =>
    intro lines
    rw [emits_cons_iff (by simp), hwritten, h.written]

/-- What a member writes for an event: the line, if the event reaches its level. -/
theorem Logger.log_eq (l : Logger) (session : Option String) (moment : Moment) (e : Event) :
    l.log session moment e =
      if l.threshold.rank ≤ e.level.rank then [l.line session moment e] else [] := by
  simp only [Logger.log, Logger.lines, Logger.wouldLog, Level.passes, decide_eq_true_eq]
  rfl

/-- An event is logged through a member that exists. -/
theorem Family.written_log {k : Logger} (hk : f.members[i]? = some k) (moment : Moment)
    (e : Event) : (f.log i moment e).written = f.written ++ k.log f.session moment e := by
  rw [Family.log, hk]

theorem Mirrors.log (h : Mirrors l past f) (j : Nat) (moment : Moment) (e : Event) :
    Mirrors l (.log j moment e :: past) (f.log j moment e) := by
  have hmembers : (f.log j moment e).members = f.members := by
    unfold Family.log
    split <;> rfl
  have hsession : (f.log j moment e).session = f.session := by
    unfold Family.log
    split <;> rfl
  constructor
  case length =>
    rw [hmembers, h.length]
    rfl
  case uniform =>
    rw [hmembers]
    exact h.uniform
  case level =>
    intro i level
    rw [hasLevel_cons_iff (by simp) (by simp), hmembers, h.level]
  case session =>
    intro session
    rw [inSession_cons_iff (by simp), hsession, h.session]
  case written =>
    intro lines
    simp only [emits_log_iff, h.written, h.session]
    -- A member that does not exist has no level, so the gate of `Emits` is closed for it.
    cases hk : f.members[j]? with
    | none =>
      have hunchanged : (f.log j moment e).written = f.written := by rw [Family.log, hk]
      have hno : ∀ level, ¬ HasLevel l.threshold past j level := by simp [h.level, hk]
      simp [hunchanged, hno]
    | some k =>
      have hline : k.line = l.line := by
        rw [h.uniform j k hk]
        rfl
      have hlevel : ∀ level, HasLevel l.threshold past j level ↔ level = k.threshold := by
        intro level
        constructor
        · intro hl
          exact (congrArg Logger.threshold (Option.some.inj (hk.symm.trans
            ((h.level j level).mp hl)))).symm
        · rintro rfl
          exact h.exists_level hk
      rw [Family.written_log hk, Logger.log_eq, hline]
      simp only [hlevel]
      split_ifs with hreach
      · have hgate : ¬ e.level.rank < k.threshold.rank := by omega
        simp [hreach, hgate, eq_comm]
      · have hgate : e.level.rank < k.threshold.rank := by omega
        simp [hreach, hgate]

/-! ## All operations -/

/-- What each operation keeps, any number of them keep. -/
theorem mirrors_after (l : Logger) (past : List Operation) : Mirrors l past (l.after past) := by
  induction past with
  | nil => exact mirrors_single l
  | cons op past ih =>
    cases op with
    | clone i => exact ih.clone i
    | setLevel i level => exact ih.setLevel i level
    | setSession i id => exact ih.setSession i id
    | log i moment e => exact ih.log i moment e

/-- An operation removes nothing that has been written. -/
theorem Family.written_prefix_apply (f : Family) (op : Operation) :
    f.written <+: (f.apply op).written := by
  cases op with
  | clone i => exact List.prefix_rfl
  | setLevel i level => exact List.prefix_rfl
  | setSession i id =>
    simp only [Family.apply]
    split_ifs <;> exact List.prefix_rfl
  | log i moment e =>
    cases hk : f.members[i]? with
    | none => simp [Family.apply, Family.log, hk]
    | some k =>
      rw [Family.apply, Family.written_log hk]
      exact List.prefix_append _ _

theorem written_prefix_after (l : Logger) (more past : List Operation) :
    (l.after past).written <+: (l.after (more ++ past)).written := by
  induction more with
  | nil => exact List.prefix_rfl
  | cons op more ih => exact ih.trans ((l.after (more ++ past)).written_prefix_apply op)

/-- What the past of a family decides: the level of each member and the session of all, by which
each operation either writes one line behind the old ones or leaves them as they are. -/
structure Decided (l : Logger) (past : List Operation) : Prop where
  member : ∀ i, i < population past ↔ ∃ level, HasLevel l.threshold past i level
  level : ∀ i level, HasLevel l.threshold past i level ↔
    (l.after past).members[i]? = some (l.withLevel level)
  gate : ∀ (i : Nat) (k : Logger) (level : Level), (l.after past).members[i]? = some k →
    HasLevel l.threshold past i level → ∀ e, k.wouldLog e ↔ level.rank ≤ e.rank
  logs : ∀ (i : Nat) (k : Logger) (moment : Moment) (e : Event),
    (l.after past).members[i]? = some k →
    (l.after (.log i moment e :: past)).written = (l.after past).written ++
      if k.wouldLog e.level then [l.line (l.after past).session moment e] else []
  session : ∀ session, InSession past session ↔ (l.after past).session = session
  written : ∀ lines, Emits l past lines ↔ (l.after past).written = lines
  lasting : ∀ more, (l.after past).written <+: (l.after (more ++ past)).written

/-- Members of a family are cloned, get levels and sessions and log, in any order. Each member's
level is its own, from its origin at the time it was made or set since; the session is the one that
was set last through any member; and the lines are those of the events that reached the level of the
member they were logged through, each within the session of its time. -/
theorem decided_of_past (l : Logger) (past : List Operation) : Decided l past := by
  have hmirrors := mirrors_after l past
  constructor
  case member =>
    intro i
    rw [← hmirrors.length]
    constructor
    · intro hi
      exact ⟨_, hmirrors.exists_level (List.getElem?_eq_getElem hi)⟩
    · rintro ⟨level, hlevel⟩
      exact (List.getElem?_eq_some_iff.mp ((hmirrors.level i level).mp hlevel)).1
  case level => exact hmirrors.level
  case gate =>
    intro i k level hk hlevel e
    have hsame := hk.symm.trans ((hmirrors.level i level).mp hlevel)
    obtain rfl := Option.some.inj hsame
    exact decide_eq_true_iff
  case logs =>
    intro i k moment e hk
    have hline : k.line = l.line := by
      rw [hmirrors.uniform i k hk]
      rfl
    rw [Logger.after, Family.apply, Family.written_log hk, Logger.log_eq, hline]
    simp [Logger.wouldLog, Level.passes]
  case session => exact hmirrors.session
  case written => exact hmirrors.written
  case lasting => exact fun more => written_prefix_after l more past

end Past

end BenchRig.Log
