import BenchRig.Ansi.Basic

/-!
# Taking style sequences out of a text

A single pass from left to right deletes every complete sequence `ESC[…m` of digits and semicolons.
The pass does not respect concatenation in general, since the place where two texts meet may cut a
sequence. It does where the second text starts with a character that goes on no sequence. All
decoration starts with an escape character, which is one of those, so nothing that a text holds can
reach into the decoration around it.
-/

namespace BenchRig.Ansi

/-- What follows digits, semicolons and a final `m`, if these come first. -/
def parametersEnd? : List Char → Option (List Char)
  | [] => none
  | c :: rest =>
    if c = 'm' then some rest
    else if c.isDigit || c = ';' then parametersEnd? rest
    else none

/-- What follows a sequence, if one comes first. -/
def sequenceEnd? : List Char → Option (List Char)
  | c :: '[' :: rest => if c = escape then parametersEnd? rest else none
  | _ => none

theorem length_parametersEnd? {text rest : List Char} (h : parametersEnd? text = some rest) :
    rest.length < text.length := by
  induction text with
  | nil => cases h
  | cons c text ih =>
    rw [parametersEnd?] at h
    split at h
    · cases h
      exact Nat.lt_succ_self _
    · split at h
      · exact Nat.lt_succ_of_lt (ih h)
      · cases h

theorem length_sequenceEnd? {text rest : List Char} (h : sequenceEnd? text = some rest) :
    rest.length < text.length := by
  unfold sequenceEnd? at h
  split at h
  · split at h
    · have := length_parametersEnd? h
      simp only [List.length_cons]
      omega
    · cases h
  · cases h

/-- The text without its sequences. -/
def strip : List Char → List Char
  | [] => []
  | c :: rest =>
    match _h : sequenceEnd? (c :: rest) with
    | some behind => strip behind
    | none => c :: strip rest
termination_by text => text.length
decreasing_by
  · exact length_sequenceEnd? ‹_›
  · exact Nat.lt_succ_self _

theorem strip_nil : strip [] = [] := by
  rw [strip]

theorem strip_sequence {text rest : List Char} (h : sequenceEnd? text = some rest) :
    strip text = strip rest := by
  cases text with
  | nil => cases h
  | cons c text =>
    rw [strip]
    split
    · next behind hb =>
      rw [h] at hb
      rw [Option.some.inj hb]
    · next hb =>
      rw [h] at hb
      cases hb

theorem strip_cons {c : Char} {text : List Char} (h : sequenceEnd? (c :: text) = none) :
    strip (c :: text) = c :: strip text := by
  rw [strip]
  split
  · next behind hb =>
    rw [h] at hb
    cases hb
  · rfl

theorem sequenceEnd?_of_ne {c : Char} (h : c ≠ escape) (text : List Char) :
    sequenceEnd? (c :: text) = none := by
  unfold sequenceEnd?
  split
  · next hc =>
    cases hc
    rw [if_neg h]
  · rfl

/-! ## Where two texts meet -/

/-- A text that cannot go on a sequence begun before it: it is empty, or its first character is no
bracket, no parameter and no final letter. -/
def Cuts (text : List Char) : Prop :=
  ∀ c ∈ text.head?, c ≠ '[' ∧ c ≠ 'm' ∧ c.isDigit = false ∧ c ≠ ';'

theorem cuts_nil : Cuts [] := by
  intro c hc
  cases hc

theorem cuts_cons {c : Char} (text : List Char)
    (h : c ≠ '[' ∧ c ≠ 'm' ∧ c.isDigit = false ∧ c ≠ ';') : Cuts (c :: text) := by
  intro d hd
  cases hd
  exact h

theorem cuts_reset (text : List Char) : Cuts (reset ++ text) := cuts_cons _ (by decide)

theorem parametersEnd?_append {q : List Char} (hq : Cuts q) (p : List Char) :
    parametersEnd? (p ++ q) = (parametersEnd? p).map (· ++ q) := by
  induction p with
  | nil =>
    cases q with
    | nil => rfl
    | cons c q =>
      obtain ⟨-, hm, hdigit, hsemi⟩ := hq c rfl
      simp [parametersEnd?, hm, hdigit, hsemi]
  | cons c p ih =>
    rw [List.cons_append, parametersEnd?, parametersEnd?]
    split
    · rfl
    · split
      · exact ih
      · rfl

theorem sequenceEnd?_append {q : List Char} (hq : Cuts q) {c : Char} (p : List Char) :
    sequenceEnd? (c :: p ++ q) = (sequenceEnd? (c :: p)).map (· ++ q) := by
  cases p with
  | nil =>
    cases q with
    | nil => simp [sequenceEnd?]
    | cons d q =>
      obtain ⟨hbracket, -⟩ := hq d rfl
      simp [sequenceEnd?, hbracket]
  | cons d p =>
    by_cases hd : d = '['
    · subst hd
      simp only [List.cons_append, sequenceEnd?]
      split
      · exact parametersEnd?_append hq p
      · rfl
    · simp [sequenceEnd?, hd]

/-- The pass treats two texts apart if the second cannot go on a sequence of the first. -/
theorem strip_append {q : List Char} (hq : Cuts q) (p : List Char) :
    strip (p ++ q) = strip p ++ strip q := by
  induction hn : p.length using Nat.strongRecOn generalizing p with
  | ind n ih =>
    subst hn
    cases p with
    | nil => rw [strip_nil, List.nil_append, List.nil_append]
    | cons c p =>
      have happend := sequenceEnd?_append hq (c := c) p
      cases hp : sequenceEnd? (c :: p) with
      | some behind =>
        rw [hp] at happend
        rw [strip_sequence happend, strip_sequence hp]
        exact ih _ (length_sequenceEnd? hp) behind rfl
      | none =>
        rw [hp] at happend
        rw [List.cons_append] at happend ⊢
        rw [strip_cons happend, strip_cons hp, List.cons_append]
        exact congrArg (c :: ·) (ih _ (Nat.lt_succ_self _) p rfl)

-- Without `Cuts` the two sides differ: the second text may end what the first began.
example : strip ([escape, '['] ++ ['m']) = [] := by cbv

example : strip [escape, '['] ++ strip ['m'] = [escape, '[', 'm'] := by cbv

/-- Characters that start no sequence stay. -/
theorem strip_plain_append {p : List Char} (hp : escape ∉ p) (q : List Char) :
    strip (p ++ q) = p ++ strip q := by
  induction p with
  | nil => rfl
  | cons c p ih =>
    obtain ⟨hc, hp⟩ : escape ≠ c ∧ escape ∉ p := by simpa using hp
    rw [List.cons_append, strip_cons (sequenceEnd?_of_ne (Ne.symm hc) _), ih hp, List.cons_append]

theorem strip_plain {p : List Char} (hp : escape ∉ p) : strip p = p := by
  have := strip_plain_append hp []
  rwa [strip_nil, List.append_nil] at this

/-! ## Painted texts -/

theorem strip_opening (s : Style) (text : List Char) :
    strip (s.opening ++ text) = strip text := by
  apply strip_sequence
  obtain ⟨colour, bold⟩ := s
  cases colour <;> cases bold <;>
    simp [Style.opening, Colour.code, sequenceEnd?, parametersEnd?, Char.isDigit]

theorem strip_reset (text : List Char) : strip (reset ++ text) = strip text := by
  apply strip_sequence
  simp [reset, sequenceEnd?, parametersEnd?, Char.isDigit]

/-- Either a text holds no reset, or the opening comes behind the first one. -/
theorem reopen_cases (o text : List Char) :
    reopen o text = text ∨
      ∃ p q, text = p ++ reset ++ q ∧ reopen o text = p ++ reset ++ o ++ reopen o q := by
  fun_induction reopen o text with
  | case1 rest ih => exact .inr ⟨[], rest, rfl, rfl⟩
  | case2 c rest hne ih =>
    rcases ih with hsame | ⟨p, q, htext, hopen⟩
    · exact .inl (by rw [hsame])
    · exact .inr ⟨c :: p, q, by rw [htext]; rfl, by rw [hopen]; rfl⟩
  | case3 => exact .inl rfl

/-- What is put behind the resets of a text goes away again. -/
theorem strip_reopen (s : Style) (text : List Char) :
    strip (reopen s.opening text) = strip text := by
  induction hn : text.length using Nat.strongRecOn generalizing text with
  | ind n ih =>
    rcases reopen_cases s.opening text with hsame | ⟨p, q, htext, hopen⟩
    · rw [hsame]
    · have hshort : q.length < n := by
        rw [← hn, htext]
        simp only [List.length_append, reset, List.length_cons]
        omega
      calc strip (reopen s.opening text)
          = strip (p ++ (reset ++ (s.opening ++ reopen s.opening q))) := by
            rw [hopen, List.append_assoc, List.append_assoc]
        _ = strip p ++ strip (reopen s.opening q) := by
            rw [strip_append (cuts_reset _), strip_reset, strip_opening]
        _ = strip p ++ strip q := by rw [ih _ hshort q rfl]
        _ = strip (p ++ (reset ++ q)) := by rw [strip_append (cuts_reset _), strip_reset]
        _ = strip text := by rw [htext, List.append_assoc]

/-- A painted text, whatever it holds and whatever follows, is stripped to what the text is. -/
theorem strip_paint (enabled : Bool) (s : Style) (text : String) {q : List Char} (hq : Cuts q) :
    strip ((paint enabled s text).toList ++ q) = strip text.toList ++ strip q := by
  cases enabled with
  | false => exact strip_append hq text.toList
  | true =>
    calc strip ((paint true s text).toList ++ q)
        = strip (s.opening ++ (reopen s.opening text.toList ++ (reset ++ q))) := by
          simp [paint]
      _ = strip (reopen s.opening text.toList) ++ strip q := by
          rw [strip_opening, strip_append (cuts_reset _), strip_reset]
      _ = strip text.toList ++ strip q := by rw [strip_reopen]

end BenchRig.Ansi
