import BenchRig.Report.Writer
import Mathlib.Data.List.Induction

/-!
# What a limited sink holds of a report

The lines of a report, one after another, are a sequence of bytes: the transcript. A sink with a
limit holds the first bytes of it, however the calls that sent them ended, and a call succeeds
exactly if the limit lies behind the end of its line. What carries the induction over the calls is
how much was sent, not how much was taken: a call that stops in the middle of its line leaves the
same bytes in the sink as one that would have gone on.
-/

namespace BenchRig.Report

/-- The bytes of a line and its end. -/
def lineBytes (line : String) : List UInt8 := Text.encode line ++ [0x0a]

/-- The bytes of lines, one after another. -/
def transcript (lines : List String) : List UInt8 := lines.flatMap lineBytes

theorem transcript_concat (lines : List String) (line : String) :
    transcript (lines ++ [line]) = transcript lines ++ lineBytes line := by
  simp [transcript]

/-- The writer after it was given lines, whatever came of each of them. -/
def Writer.writeLines (w : Writer) (lines : List String) : Writer :=
  lines.foldl (fun w line => (w.writeLine line).1) w

theorem Writer.writeLines_concat (w : Writer) (lines : List String) (line : String) :
    w.writeLines (lines ++ [line]) = ((w.writeLines lines).writeLine line).1 := by
  simp [writeLines]

/-! ## One write and one flush -/

/-- A sink that takes `cap` bytes and fails for the reason `why` otherwise, or at its flush
`failing`, after `sent` has been sent to it in `calls` lines. It has been flushed once a line as long
as all of them found room. -/
structure Sink.Sent (s : Sink) (cap : Nat) (failing : Option Nat) (why : IoFault)
    (sent : List UInt8) (calls : Nat) : Prop where
  limit : s.limit = some cap
  failingFlush : s.failingFlush = failing
  fault : s.fault = why
  written : s.written = sent.take cap
  flushes : sent.length ≤ cap → s.flushes = calls

variable {s : Sink} {w : Writer} {cap : Nat} {failing : Option Nat} {why : IoFault}
  {sent : List UInt8} {calls : Nat}

namespace Sink.Sent

theorem room (h : s.Sent cap failing why sent calls) :
    cap - s.written.length = cap - sent.length := by
  rw [h.written, List.length_take]
  omega

theorem write_result (h : s.Sent cap failing why sent calls) (bytes : List UInt8) :
    (s.write bytes).2 =
      if bytes = [] ∨ (sent ++ bytes).length ≤ cap then .ok () else .error why := by
  have hfits : bytes.length ≤ cap - sent.length ↔
      bytes = [] ∨ (sent ++ bytes).length ≤ cap := by
    rw [List.length_append, ← List.length_eq_zero_iff]
    omega
  simp only [Sink.write, h.limit, h.room, h.fault, hfits]

/-- A write adds what still finds room, whether it fails or not. -/
theorem write (h : s.Sent cap failing why sent calls) (bytes : List UInt8) :
    (s.write bytes).1.Sent cap failing why (sent ++ bytes) calls := by
  have hwritten : (s.write bytes).1.written = (sent ++ bytes).take cap := by
    simp only [Sink.write, h.limit, h.room]
    rw [h.written, List.take_append]
  constructor
  case written => exact hwritten
  case flushes =>
    intro hle
    rw [List.length_append] at hle
    simpa only [Sink.write, h.limit] using h.flushes (by omega)
  all_goals simp only [Sink.write, h.limit, h.failingFlush, h.fault]

/-- Once something found no room, nothing that follows changes what the sink holds. -/
theorem overflow (h : s.Sent cap failing why sent calls) (hover : cap < sent.length)
    (bytes : List UInt8) (n : Nat) : s.Sent cap failing why (sent ++ bytes) n := by
  have hwritten : s.written = (sent ++ bytes).take cap := by
    rw [h.written, List.take_append_of_le_length (by omega)]
  have hfull : (sent ++ bytes).length ≤ cap → s.flushes = n := by
    intro hle
    rw [List.length_append] at hle
    omega
  exact ⟨h.limit, h.failingFlush, h.fault, hwritten, hfull⟩

theorem flush (h : s.Sent cap failing why sent calls) :
    s.flush.1.Sent cap failing why sent (calls + 1) := by
  have hcount : sent.length ≤ cap → s.flush.1.flushes = calls + 1 := by
    intro hle
    simp only [Sink.flush, h.flushes hle]
  exact ⟨h.limit, h.failingFlush, h.fault, h.written, hcount⟩

theorem flush_result (h : s.Sent cap failing why sent calls) (hle : sent.length ≤ cap) :
    s.flush.2 = if failing = some (calls + 1) then .error why else .ok () := by
  simp only [Sink.flush, h.failingFlush, h.fault, h.flushes hle]

end Sink.Sent

/-! ## One line -/

/-- The failure of every call that fails. -/
def lineFailure (why : IoFault) : Failure :=
  ⟨.io, "Failed to write result line: " ++ why.message⟩

theorem writeFailure_eq (why : IoFault) : writeFailure why = lineFailure why := by
  simp only [writeFailure, IoFault.failure, Failure.within, lineFailure, String.append_assoc]
  rfl

/-- What one call comes to: the sink has been sent the whole line, and the call succeeds if the line
found room and its flush is not the one that fails. -/
structure Writer.Wrote (after : Writer) (r : Except Failure Unit) (cap : Nat)
    (failing : Option Nat) (why : IoFault) (sent : List UInt8) (calls : Nat) : Prop where
  sink : after.sink.Sent cap failing why sent (calls + 1)
  result : r = if sent.length ≤ cap ∧ failing ≠ some (calls + 1) then .ok ()
    else .error (lineFailure why)

/-- A call stops at the first of text, line end and flush that fails; the cases are these three
places and the end. -/
theorem Writer.writeLine_wrote (h : w.sink.Sent cap failing why sent calls) (line : String) :
    (w.writeLine line).1.Wrote (w.writeLine line).2 cap failing why (sent ++ lineBytes line)
      calls := by
  have hbytes : sent ++ lineBytes line = sent ++ Text.encode line ++ [0x0a] :=
    (List.append_assoc ..).symm
  have hlength : (sent ++ lineBytes line).length = (sent ++ Text.encode line).length + 1 := by
    rw [hbytes, List.length_append, List.length_singleton]
  have htext := h.write (Text.encode line)
  have htextResult := h.write_result (Text.encode line)
  rcases hr₁ : w.sink.write (Text.encode line) with ⟨s₁, r₁⟩
  rw [hr₁] at htext htextResult
  have hend := htext.write [0x0a]
  have hendResult := htext.write_result [0x0a]
  rw [← hbytes] at hend hendResult
  by_cases hroom : Text.encode line = [] ∨ (sent ++ Text.encode line).length ≤ cap
  · rw [if_pos hroom] at htextResult
    obtain rfl : r₁ = .ok () := htextResult
    rcases hr₂ : s₁.write [0x0a] with ⟨s₂, r₂⟩
    rw [hr₂] at hend hendResult
    by_cases hfits : (sent ++ lineBytes line).length ≤ cap
    · rw [if_pos (.inr hfits)] at hendResult
      obtain rfl : r₂ = .ok () := hendResult
      have hflush := hend.flush
      have hflushResult := hend.flush_result hfits
      rcases hr₃ : s₂.flush with ⟨s₃, r₃⟩
      rw [hr₃] at hflush hflushResult
      by_cases hfail : failing = some (calls + 1)
      · rw [if_pos hfail] at hflushResult
        obtain rfl : r₃ = .error why := hflushResult
        simp only [writeLine, hr₁, hr₂, hr₃, writeFailure_eq]
        exact ⟨hflush, (if_neg fun hc => hc.2 hfail).symm⟩
      · rw [if_neg hfail] at hflushResult
        obtain rfl : r₃ = .ok () := hflushResult
        simp only [writeLine, hr₁, hr₂, hr₃]
        exact ⟨hflush, (if_pos ⟨hfits, hfail⟩).symm⟩
    · rw [if_neg fun hc => hc.elim (List.cons_ne_nil _ _) hfits] at hendResult
      obtain rfl : r₂ = .error why := hendResult
      have hsink := hend.overflow (by omega) [] (calls + 1)
      rw [List.append_nil] at hsink
      simp only [writeLine, hr₁, hr₂, writeFailure_eq]
      exact ⟨hsink, (if_neg fun hc => hfits hc.1).symm⟩
  · rw [if_neg hroom] at htextResult
    obtain rfl : r₁ = .error why := htextResult
    have hover : cap < (sent ++ Text.encode line).length := by
      have := mt Or.inr hroom
      omega
    have hsink := htext.overflow hover [0x0a] (calls + 1)
    rw [← hbytes] at hsink
    simp only [writeLine, hr₁, writeFailure_eq]
    exact ⟨hsink, (if_neg fun hc => by omega).symm⟩

/-! ## All lines -/

/-- A sink nothing has been sent to. -/
def Sink.fresh (cap : Nat) (failing : Option Nat) (why : IoFault) : Sink :=
  { limit := some cap, failingFlush := failing, fault := why }

theorem Sink.sent_fresh (cap : Nat) (failing : Option Nat) (why : IoFault) :
    (Sink.fresh cap failing why).Sent cap failing why [] 0 :=
  ⟨rfl, rfl, rfl, List.take_nil.symm, fun _ => rfl⟩

theorem Writer.sent_writeLines (h : w.sink.Sent cap failing why [] 0) (lines : List String) :
    (w.writeLines lines).sink.Sent cap failing why (transcript lines) lines.length := by
  induction lines using List.reverseRecOn with
  | nil => exact h
  | append_singleton lines line ih =>
    rw [writeLines_concat, transcript_concat, List.length_append, List.length_singleton]
    exact (writeLine_wrote ih line).sink

/-- A call changes nothing of a writer but its sink. -/
theorem Writer.line_writeLine (w : Writer) (text : String) :
    (w.writeLine text).1.line = w.line := by
  rw [writeLine]
  repeat' split
  all_goals rfl

theorem Writer.line_writeLines (w : Writer) (lines : List String) :
    (w.writeLines lines).line = w.line := by
  induction lines using List.reverseRecOn with
  | nil => rfl
  | append_singleton lines line ih => rw [writeLines_concat, line_writeLine, ih]

/-- The lines of items can be made before any of them is written. -/
theorem Writer.foldl_write (w : Writer) (items : List Item) :
    items.foldl (fun w item => (w.write item).1) w = w.writeLines (items.map w.line) := by
  induction items using List.reverseRecOn with
  | nil => rfl
  | append_singleton items item ih =>
    rw [List.foldl_append, List.map_append, List.map_singleton, writeLines_concat, ih,
      List.foldl_cons, List.foldl_nil, Writer.write, line_writeLines]

/-- Lines of any making, sent one after another to a sink that takes `cap` bytes: the sink holds the
first `cap` bytes of the transcript before and after each call, and a call succeeds exactly if its
line and line end lie within them and its flush is not the one that fails. The items of a report are
such lines, in every theme. -/
theorem Writer.transcript_of_calls (theme : Theme) (terminal : Bool) (cap : Nat)
    (failing : Option Nat) (why : IoFault) :
    let start : Writer := { theme, terminal, sink := Sink.fresh cap failing why }
    (∀ (lines : List String) (next : String),
      let w := start.writeLines lines
      let call := w.writeLine next
      w.sink.written = (transcript lines).take cap ∧
      call.1.sink.written = (transcript (lines ++ [next])).take cap ∧
      call.2 =
        if (transcript (lines ++ [next])).length ≤ cap ∧ failing ≠ some (lines.length + 1)
        then .ok ()
        else .error ⟨.io, "Failed to write result line: " ++ why.message⟩) ∧
    ∀ (items : List Item) (next : Item),
      let w := items.foldl (fun w item => (w.write item).1) start
      w = start.writeLines (items.map (theme.line terminal)) ∧
      w.write next = w.writeLine (theme.line terminal next) := by
  intro start
  have hfresh : start.sink.Sent cap failing why [] 0 := Sink.sent_fresh cap failing why
  constructor
  · intro lines next w call
    have hsent := sent_writeLines hfresh lines
    have hcall := writeLine_wrote hsent next
    rw [← transcript_concat] at hcall
    exact ⟨hsent.written, hcall.sink.written, hcall.result⟩
  · intro items next w
    have hw : w = start.writeLines (items.map (theme.line terminal)) := foldl_write start items
    have hline : w.line = theme.line terminal := by
      rw [hw, line_writeLines]
      rfl
    exact ⟨hw, by rw [Writer.write, hline]⟩

end BenchRig.Report
