import BenchRig.Proofs.Report.Transcript

/-!
# Which line a sink refuses

A sink, limited or not, takes whole lines until one finds no room or its flush fails. Up to there the
sink is what it was with the transcript behind what it held; the refused line fails the call.
-/

namespace BenchRig.Report

/-- There is a limit, and it is passed. -/
def Overflows (limit : Option Nat) (bytes : List UInt8) : Prop :=
  ∃ cap, limit = some cap ∧ cap < bytes.length

/-- What is held of bytes under a limit. -/
def cut (limit : Option Nat) (bytes : List UInt8) : List UInt8 :=
  match limit with
  | none => bytes
  | some cap => bytes.take cap

namespace Sink

/-- A line finds no room, or its flush is the one that fails. -/
def Refuses (s : Sink) (line : String) : Prop :=
  Overflows s.limit (s.written ++ lineBytes line) ∨ s.failingFlush = some (s.flushes + 1)

/-- Line `k` of several finds no room behind those in front of it, or its flush is the one that
fails. -/
def RefusesAt (s : Sink) (lines : List String) (k : Nat) : Prop :=
  Overflows s.limit (s.written ++ transcript (lines.take (k + 1))) ∨
    s.failingFlush = some (s.flushes + (k + 1))

/-- The sink after it has taken whole lines. -/
def after (s : Sink) (lines : List String) : Sink :=
  { s with written := s.written ++ transcript lines, flushes := s.flushes + lines.length }

end Sink

variable {s : Sink} {w : Writer} {limit : Option Nat} {bytes : List UInt8} {line : String}

theorem not_overflows_none : ¬Overflows none bytes := by
  rintro ⟨cap, hcap, -⟩
  cases hcap

theorem not_overflows_some {cap : Nat} : ¬Overflows (some cap) bytes ↔ bytes.length ≤ cap := by
  simp [Overflows]

theorem cut_of_not_overflows (h : ¬Overflows limit bytes) : cut limit bytes = bytes := by
  cases limit with
  | none => rfl
  | some cap => exact List.take_of_length_le (not_overflows_some.mp h)

theorem not_overflows_mono {more : List UInt8} (h : ¬Overflows limit more)
    (hfront : bytes <+: more) : ¬Overflows limit bytes := by
  rintro ⟨cap, hcap, hlt⟩
  exact h ⟨cap, hcap, Nat.lt_of_lt_of_le hlt hfront.length_le⟩

theorem isPrefix_cut {more : List UInt8} (h : ¬Overflows limit bytes) (hfront : bytes <+: more) :
    bytes <+: cut limit more := by
  cases limit with
  | none => exact hfront
  | some cap => exact List.prefix_take_iff.mpr ⟨hfront, not_overflows_some.mp h⟩

/-! ## One line -/

theorem Sink.write_of_not_overflows (h : ¬Overflows s.limit (s.written ++ bytes)) :
    s.write bytes = ({ s with written := s.written ++ bytes }, .ok ()) := by
  unfold write
  cases hlimit : s.limit with
  | none => rfl
  | some cap =>
    rw [hlimit, not_overflows_some, List.length_append] at h
    have hroom : bytes.length ≤ cap - s.written.length := by omega
    dsimp only
    rw [if_pos hroom, List.take_of_length_le hroom]

/-- A line that finds room is held as a whole, even if its flush fails. -/
theorem Writer.writeLine_of_not_overflows
    (h : ¬Overflows w.sink.limit (w.sink.written ++ lineBytes line)) :
    w.writeLine line = ({ w with sink := w.sink.after [line] },
      if w.sink.failingFlush = some (w.sink.flushes + 1) then .error (lineFailure w.sink.fault)
      else .ok ()) := by
  have hbytes : w.sink.written ++ lineBytes line =
      w.sink.written ++ Text.encode line ++ [0x0a] := (List.append_assoc ..).symm
  have hwhole : w.sink.written ++ transcript [line] = w.sink.written ++ Text.encode line ++ [0x0a] := by
    rw [transcript, List.flatMap_singleton, hbytes]
  rw [hbytes] at h
  have htext := Sink.write_of_not_overflows (not_overflows_mono h (List.prefix_append ..))
  have hend := Sink.write_of_not_overflows
    (s := { w.sink with written := w.sink.written ++ Text.encode line }) h
  rw [writeLine, htext]
  dsimp only
  rw [hend]
  dsimp only
  rw [Sink.flush, Sink.after, hwhole]
  by_cases hfails : w.sink.failingFlush = some (w.sink.flushes + 1)
  · rw [if_pos hfails, if_pos hfails, ← writeFailure_eq]
    rfl
  · rw [if_neg hfails, if_neg hfails]
    rfl

theorem Writer.writeLine_of_not_refuses (h : ¬w.sink.Refuses line) :
    w.writeLine line = ({ w with sink := w.sink.after [line] }, .ok ()) := by
  obtain ⟨hfits, hflush⟩ := not_or.mp h
  rw [writeLine_of_not_overflows hfits, if_neg hflush]

theorem Writer.writeLine_of_refuses (hroom : ¬Overflows w.sink.limit w.sink.written)
    (h : w.sink.Refuses line) :
    (w.writeLine line).1.sink.written = cut w.sink.limit (w.sink.written ++ lineBytes line) ∧
      (w.writeLine line).2 = .error (lineFailure w.sink.fault) := by
  -- Either there is a limit and a write stops at it, or the whole line is held and its flush fails.
  by_cases hover : Overflows w.sink.limit (w.sink.written ++ lineBytes line)
  · obtain ⟨cap, hcap, hlt⟩ := hover
    rw [hcap, not_overflows_some] at hroom
    have hsent : w.sink.Sent cap w.sink.failingFlush w.sink.fault w.sink.written w.sink.flushes :=
      ⟨hcap, rfl, rfl, (List.take_of_length_le hroom).symm, fun _ => rfl⟩
    have hcall := writeLine_wrote hsent line
    rw [hcap]
    exact ⟨hcall.sink.written, hcall.result.trans (if_neg fun hc => absurd hc.1 (by omega))⟩
  · have hflush : w.sink.failingFlush = some (w.sink.flushes + 1) := h.resolve_left hover
    rw [writeLine_of_not_overflows hover, cut_of_not_overflows hover, if_pos hflush, Sink.after,
      transcript, List.flatMap_singleton]
    exact ⟨rfl, rfl⟩

/-! ## More lines -/

theorem Sink.after_nil (s : Sink) : s.after [] = s := by
  rw [after, transcript, List.flatMap_nil, List.append_nil, List.length_nil, Nat.add_zero]

theorem Sink.after_append (s : Sink) (lines more : List String) :
    (s.after lines).after more = s.after (lines ++ more) := by
  simp [after, transcript, Nat.add_assoc]

theorem Sink.refusesAt_zero (s : Sink) (line : String) (lines : List String) :
    s.RefusesAt (line :: lines) 0 ↔ s.Refuses line := by
  simp [RefusesAt, Refuses, transcript]

theorem Sink.refusesAt_succ (s : Sink) (line : String) (lines : List String) (k : Nat) :
    s.RefusesAt (line :: lines) (k + 1) ↔ (s.after [line]).RefusesAt lines k := by
  have hflush : s.flushes + (k + 1 + 1) = s.flushes + 1 + (k + 1) := by omega
  simp [RefusesAt, after, transcript, hflush]

theorem Sink.refusesAt_iff {k : Nat} {lines : List String} (s : Sink)
    (hline : lines[k]? = some line) :
    s.RefusesAt lines k ↔ (s.after (lines.take k)).Refuses line := by
  have hk : k ≤ lines.length := by
    have := (List.getElem?_eq_some_iff.mp hline).1
    omega
  have hflush : s.flushes + (k + 1) = s.flushes + k + 1 := by omega
  simp [RefusesAt, Refuses, after, List.take_add_one, hline, transcript, hk, hflush]

theorem Sink.refusesAt_take (s : Sink) (lines : List String) {j k : Nat} (h : j < k) :
    s.RefusesAt (lines.take k) j ↔ s.RefusesAt lines j := by
  rw [RefusesAt, List.take_take, Nat.min_eq_left h, RefusesAt]

theorem Writer.writeLines_of_unlimited (hlimit : w.sink.limit = none)
    (hflush : w.sink.failingFlush = none) (lines : List String) :
    w.writeLines lines = { w with sink := w.sink.after lines } := by
  induction lines using List.reverseRecOn with
  | nil => rw [Sink.after_nil, writeLines, List.foldl_nil]
  | append_singleton lines line ih =>
    have htaken : ¬(w.sink.after lines).Refuses line := by
      rintro (hover | hfails)
      · exact not_overflows_none (hlimit ▸ hover)
      · cases hflush.symm.trans hfails
    rw [writeLines_concat, ih, writeLine_of_not_refuses htaken, Sink.after_append]

end BenchRig.Report
