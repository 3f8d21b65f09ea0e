import BenchRig.Command.Parse
import Mathlib.Data.List.Count
import Mathlib.Data.List.Nodup
import Mathlib.Tactic.SplitIfs

/-!
# Flags around a command

A command line of flags and commands is understood exactly if it has one command, and no flag twice
on the same side of it. On which side a flag stands does not matter, and on both sides it counts
once.
-/

namespace BenchRig.Command

/-- An argument that is a flag or a command. -/
inductive Token where
  /-- A flag. -/
  | flag (f : Flag)
  /-- The name of a benchmark. -/
  | command (k : Kind)
  deriving DecidableEq, Repr

/-- The argument as it is written. -/
def Token.text : Token → String
  | flag f => "--" ++ f.name
  | command k => commandName k

/-! ## One argument -/

theorem shapeOf_flag (f : Flag) : shapeOf (Token.flag f).text = .long f.name none := by
  cases f <;> decide

theorem shapeOf_command (k : Kind) : shapeOf (Token.command k).text = .plain := by
  cases k <;> decide

theorem ofCommand?_commandName (k : Kind) : ofCommand? (commandName k) = some k := by
  cases k <;> decide

/-- A flag is refused where it has been given already. -/
theorem readLong_flag (place : Place) (seen : List Flag) (f : Flag) :
    readLong place seen f.name none =
      if f ∈ seen then .error (.repeatedFlag f.name) else .ok f := by
  have hknown : ((Flag.all.map Flag.name).contains f.name || f.name == "help" ||
      (f.name == "version" && place == .front)) = true := by
    have hname : (Flag.all.map Flag.name).contains f.name = true := by cases f <;> decide
    rw [hname]
    rfl
  have hfind : (Flag.all.find? fun g => g.name == f.name) = some f := by cases f <;> decide
  simp only [readLong, hknown, hfind, Bool.not_true, Bool.false_eq_true, if_false]

/-! ## Flags in a row -/

/-- A reader that takes every flag that has not been given to it yet. -/
def TakesFlags {α : Type} (read : List Flag → List String → Except Stop α) : Prop :=
  ∀ seen f rest, read seen ((Token.flag f).text :: rest) =
    if f ∈ seen then .error (.repeatedFlag f.name) else read (seen ++ [f]) rest

theorem takesFlags_readBehind (k : Kind) : TakesFlags (readBehind k false) := by
  intro seen f rest
  simp only [readBehind, shapeOf_flag, readLong_flag, Bool.false_eq_true, if_false]
  split_ifs <;> rfl

theorem takesFlags_readFront : TakesFlags (readFront false) := by
  intro seen f rest
  simp only [readFront, shapeOf_flag, readLong_flag, Bool.false_eq_true, if_false]
  split_ifs <;> rfl

/-- The flags as they are written. -/
def flagTexts (flags : List Flag) : List String := flags.map fun f => (Token.flag f).text

section Flags

variable {α : Type} {read : List Flag → List String → Except Stop α} {flags : List Flag}

/-- Flags are taken one after another, as long as none is given twice. -/
theorem TakesFlags.read_of_nodup (h : TakesFlags read) (seen : List Flag)
    (hnodup : (seen ++ flags).Nodup) (rest : List String) :
    read seen (flagTexts flags ++ rest) = read (seen ++ flags) rest := by
  induction flags generalizing seen with
  | nil => rw [List.append_nil]; rfl
  | cons f flags ih =>
    have hfresh : f ∉ seen := by
      intro hf
      exact (List.nodup_append.mp hnodup).2.2 f hf f List.mem_cons_self rfl
    have hsplit : seen ++ f :: flags = seen ++ [f] ++ flags := by simp
    rw [hsplit] at hnodup ⊢
    rw [← ih _ hnodup]
    exact (h seen f _).trans (if_neg hfresh)

theorem TakesFlags.read_of_not_nodup (h : TakesFlags read) {seen : List Flag} (hseen : seen.Nodup)
    (hnodup : ¬(seen ++ flags).Nodup) (rest : List String) :
    ∃ name, read seen (flagTexts flags ++ rest) = .error (.repeatedFlag name) := by
  induction flags generalizing seen with
  | nil => exact absurd (by rwa [List.append_nil]) hnodup
  | cons f flags ih =>
    have hread := h seen f (flagTexts flags ++ rest)
    by_cases hf : f ∈ seen
    · exact ⟨f.name, hread.trans (if_pos hf)⟩
    · have hsplit : seen ++ f :: flags = seen ++ [f] ++ flags := by simp
      have hmore : (seen ++ [f]).Nodup := by
        rw [List.nodup_append_comm]
        exact List.nodup_cons.mpr ⟨hf, hseen⟩
      obtain ⟨name, hname⟩ := ih hmore (hsplit ▸ hnodup)
      exact ⟨name, hread.trans ((if_neg hf).trans hname)⟩

end Flags

/-! ## Whole command lines -/

theorem map_text_flags (flags : List Flag) :
    (flags.map Token.flag).map Token.text = flagTexts flags := List.map_map

/-- A command line starts with all flags that stand in front of the first command. -/
theorem exists_flags (tokens : List Token) :
    ∃ (flags : List Flag) (rest : List Token), tokens = flags.map .flag ++ rest ∧
      (rest = [] ∨ ∃ k more, rest = .command k :: more) := by
  induction tokens with
  | nil => exact ⟨[], [], rfl, .inl rfl⟩
  | cons token tokens ih =>
    cases token with
    | command k => exact ⟨[], _, rfl, .inr ⟨k, tokens, rfl⟩⟩
    | flag f =>
      obtain ⟨flags, rest, rfl, hrest⟩ := ih
      exact ⟨f :: flags, rest, rfl, hrest⟩

/-- Behind a command there is no second one. -/
theorem readBehind_command (k other : Kind) (seen : List Flag) (rest : List String) :
    readBehind k false seen ((Token.command other).text :: rest) =
      .error (.unknownArgument (commandName other)) := by
  simp only [readBehind, shapeOf_command, Bool.false_eq_true, if_false]
  rfl

theorem readFront_command (k : Kind) (seen : List Flag) (rest : List String) :
    readFront false seen ((Token.command k).text :: rest) =
      (readBehind k false [] rest).map fun behind => ⟨seen ++ behind, k⟩ := by
  have hname : ofCommand? (Token.command k).text = some k := ofCommand?_commandName k
  simp only [readFront, shapeOf_command, hname, Bool.false_eq_true, if_false]
  cases readBehind k false [] rest <;> rfl

/-- Behind a command, flags are understood, if none is given twice there, and nothing else is. -/
theorem readBehind_eq_ok_iff {k : Kind} {tokens : List Token} {flags : List Flag} :
    readBehind k false [] (tokens.map Token.text) = .ok flags ↔
      tokens = flags.map .flag ∧ flags.Nodup := by
  have htakes := takesFlags_readBehind k
  constructor
  · intro h
    obtain ⟨taken, rest, rfl, hrest⟩ := exists_flags tokens
    rw [List.map_append, map_text_flags] at h
    by_cases hnodup : taken.Nodup
    · rw [htakes.read_of_nodup [] hnodup] at h
      rcases hrest with rfl | ⟨other, more, rfl⟩
      · obtain rfl := Except.ok.inj h
        exact ⟨List.append_nil _, hnodup⟩
      · rw [List.map_cons, readBehind_command] at h
        cases h
    · obtain ⟨name, hname⟩ := htakes.read_of_not_nodup List.nodup_nil hnodup
        (rest.map Token.text)
      rw [hname] at h
      cases h
  · rintro ⟨rfl, hnodup⟩
    have hread := htakes.read_of_nodup [] hnodup []
    rwa [List.append_nil, ← map_text_flags] at hread

/-- A command line is understood if it has one command, and no flag twice on the same side of it. -/
theorem ofArguments_eq_ok_iff {tokens : List Token} {i : Invocation} :
    Invocation.ofArguments (tokens.map Token.text) = .ok i ↔
      ∃ front behind, tokens = front.map .flag ++ .command i.kind :: behind.map .flag ∧
        front.Nodup ∧ behind.Nodup ∧ i.flags = front ++ behind := by
  constructor
  · intro h
    obtain ⟨front, rest, rfl, hrest⟩ := exists_flags tokens
    rw [Invocation.ofArguments, List.map_append, map_text_flags] at h
    by_cases hnodup : front.Nodup
    · rw [takesFlags_readFront.read_of_nodup [] hnodup] at h
      rcases hrest with rfl | ⟨k, more, rfl⟩
      · cases h
      · rw [List.map_cons, readFront_command] at h
        cases hbehind : readBehind k false [] (more.map Token.text) with
        | error stop =>
          rw [hbehind] at h
          cases h
        | ok behind =>
          rw [hbehind] at h
          obtain ⟨rfl, honce⟩ := readBehind_eq_ok_iff.mp hbehind
          obtain rfl := Except.ok.inj h
          exact ⟨front, behind, rfl, hnodup, honce, rfl⟩
    · obtain ⟨name, hname⟩ := takesFlags_readFront.read_of_not_nodup List.nodup_nil
        hnodup (rest.map Token.text)
      rw [hname] at h
      cases h
  · rintro ⟨front, behind, rfl, hfront, hbehind, hflags⟩
    have hread := readBehind_eq_ok_iff (k := i.kind).mpr ⟨rfl, hbehind⟩
    rw [Invocation.ofArguments, List.map_append, map_text_flags,
      takesFlags_readFront.read_of_nodup [] hfront, List.map_cons, readFront_command,
      hread]
    exact congrArg Except.ok (congrArg (Invocation.mk · i.kind) hflags.symm)

/-! ## Where flags stand -/

/-- A command line with one command, and no flag twice in front of it or twice behind it. -/
structure Proper (tokens front : List Token) (k : Kind) (behind : List Token) : Prop where
  split : tokens = front ++ .command k :: behind
  single : ∀ other, .command other ∉ front ++ behind
  front : ∀ f, front.count (.flag f) ≤ 1
  behind : ∀ f, behind.count (.flag f) ≤ 1

/-- What an invocation takes from a command line: its command, and every flag that stands somewhere
in it. The settings of a run follow from the flags, unless two of them contradict each other. -/
structure Asked (tokens : List Token) (i : Invocation) : Prop where
  kind : ∀ k, .command k ∈ tokens ↔ k = i.kind
  flags : ∀ f, i.has f ↔ .flag f ∈ tokens
  conflict : ∀ env, .flag .color ∈ tokens → .flag .noColor ∈ tokens →
    i.settings env = .error ⟨.config, "Cannot specify both --color and --no-color"⟩
  settings : ∀ env, ¬(.flag .color ∈ tokens ∧ .flag .noColor ∈ tokens) →
    ∃ s, i.settings env = .ok s ∧ (s.verbose ↔ .flag .verbose ∈ tokens) ∧
      (s.debug ↔ .flag .debug ∈ tokens) ∧
      s.colour = if .flag .color ∈ tokens then true
        else if .flag .noColor ∈ tokens then false else env.supportsColour

theorem flag_injective : Function.Injective Token.flag := fun _ _ h => Token.flag.inj h

theorem nodup_iff_count_flag {flags : List Flag} :
    flags.Nodup ↔ ∀ f, (flags.map Token.flag).count (.flag f) ≤ 1 := by
  rw [List.nodup_iff_count_le_one]
  refine forall_congr' fun f => ?_
  rw [List.count_map_of_injective flags Token.flag flag_injective]

theorem exists_map_flag {tokens : List Token} (h : ∀ k, .command k ∉ tokens) :
    ∃ flags : List Flag, tokens = flags.map .flag := by
  obtain ⟨flags, rest, rfl, rfl | ⟨k, more, rfl⟩⟩ := exists_flags tokens
  · exact ⟨flags, List.append_nil _⟩
  · exact absurd (by simp) (h k)

theorem proper_iff {tokens front behind : List Token} {k : Kind} :
    Proper tokens front k behind ↔
      ∃ flags more : List Flag, front = flags.map .flag ∧ behind = more.map .flag ∧
        tokens = flags.map .flag ++ .command k :: more.map .flag ∧ flags.Nodup ∧ more.Nodup := by
  constructor
  · rintro ⟨rfl, hsingle, hfront, hbehind⟩
    obtain ⟨flags, rfl⟩ := exists_map_flag fun other h => hsingle other (List.mem_append_left _ h)
    obtain ⟨more, rfl⟩ := exists_map_flag fun other h => hsingle other (List.mem_append_right _ h)
    exact ⟨flags, more, rfl, rfl, rfl, nodup_iff_count_flag.mpr hfront,
      nodup_iff_count_flag.mpr hbehind⟩
  · rintro ⟨flags, more, rfl, rfl, rfl, hflags, hmore⟩
    exact ⟨rfl, by simp, nodup_iff_count_flag.mp hflags, nodup_iff_count_flag.mp hmore⟩

/-- Settings are decided by which flags are given. -/
theorem Invocation.settings_congr {i i' : Invocation} (h : ∀ f, i.has f = i'.has f)
    (env : Environment) : i.settings env = i'.settings env := by
  simp only [settings, conflict?, useColour, h]

theorem asked_of_split {i : Invocation} {front behind : List Flag}
    (hflags : i.flags = front ++ behind) :
    Asked (front.map .flag ++ .command i.kind :: behind.map .flag) i := by
  have hmem : ∀ f, .flag f ∈ front.map Token.flag ++ .command i.kind :: behind.map Token.flag ↔
      i.has f := by
    intro f
    simp [Invocation.has, hflags]
  constructor
  case kind => simp
  case flags => exact fun f => (hmem f).symm
  case conflict =>
    intro env hcolor hnoColor
    rw [hmem] at hcolor hnoColor
    simp only [Invocation.settings, Invocation.conflict?, hcolor, hnoColor]
    rfl
  case settings =>
    intro env hcalm
    simp only [hmem] at hcalm ⊢
    have hnone : i.conflict? = none := if_neg (by simpa using hcalm)
    refine ⟨⟨i.useColour env, i.has .verbose, i.has .debug⟩, ?_, Iff.rfl, Iff.rfl, rfl⟩
    rw [Invocation.settings, hnone]

/-- A command line of flags and commands is understood exactly if it has one command and no flag
twice on the same side of it. It asks for this command with every flag that stands in it, so two
command lines of the same words, in any order and on any side of the command, ask for the same. -/
theorem invocation_of_tokens (tokens : List Token) :
    let parsed := Invocation.ofArguments (tokens.map Token.text)
    ((∃ i, parsed = .ok i) ↔ ∃ front k behind, Proper tokens front k behind) ∧
      (∀ i, parsed = .ok i → Asked tokens i) ∧
      ∀ (tokens' : List Token) (i i' : Invocation), parsed = .ok i →
        Invocation.ofArguments (tokens'.map Token.text) = .ok i' →
        (∀ t, t ∈ tokens ↔ t ∈ tokens') →
        i.kind = i'.kind ∧ ∀ env, i.settings env = i'.settings env := by
  intro parsed
  have hasked : ∀ {tokens : List Token} {i : Invocation},
      Invocation.ofArguments (tokens.map Token.text) = .ok i → Asked tokens i := by
    intro tokens i h
    obtain ⟨front, behind, rfl, -, -, hflags⟩ := ofArguments_eq_ok_iff.mp h
    exact asked_of_split hflags
  refine ⟨?_, fun i h => hasked h, ?_⟩
  · constructor
    · rintro ⟨i, h⟩
      obtain ⟨front, behind, hsplit, hfront, hbehind, -⟩ := ofArguments_eq_ok_iff.mp h
      exact ⟨_, i.kind, _, proper_iff.mpr ⟨front, behind, rfl, rfl, hsplit, hfront, hbehind⟩⟩
    · rintro ⟨_, k, _, hproper⟩
      obtain ⟨front, behind, rfl, rfl, hsplit, hfront, hbehind⟩ := proper_iff.mp hproper
      exact ⟨⟨front ++ behind, k⟩,
        ofArguments_eq_ok_iff.mpr ⟨front, behind, hsplit, hfront, hbehind, rfl⟩⟩
  · intro tokens' i i' h h' hsame
    have hfirst := hasked h
    have hsecond := hasked h'
    refine ⟨(hsecond.kind i.kind).mp ((hsame _).mp ((hfirst.kind i.kind).mpr rfl)), ?_⟩
    refine Invocation.settings_congr fun f => ?_
    rw [Bool.eq_iff_iff, hfirst.flags, hsecond.flags, hsame]

example : Invocation.ofArguments ["--color", "spawn-only", "--color", "--debug"] =
    .ok ⟨[.color, .color, .debug], .spawnOnly⟩ := by decide

end BenchRig.Command
