import BenchRig.Report.Sink
import BenchRig.Report.Theme

/-!
# Writing a report

A writer puts one item of a report into one line. Every line is flushed, so what has been written is
there even if the run does not end well.
-/

namespace BenchRig.Report

/-- A theme and the sink that lines go to. -/
structure Writer where
  /-- How items look. -/
  theme : Theme := .plain
  /-- Whether styles are emitted at all. -/
  terminal : Bool := true
  /-- Where lines go to. -/
  sink : Sink := {}

/-- The failure of a line that could not be written. -/
def writeFailure (f : IoFault) : Failure := f.failure.within "Failed to write result line"

namespace Writer

/-- Writes a text and a line end, and flushes. -/
def writeLine (w : Writer) (line : String) : Writer × Except Failure Unit :=
  match w.sink.write (Text.encode line) with
  | (sink, .error f) => ({ w with sink }, .error (writeFailure f))
  | (sink, .ok ()) =>
    match sink.write [0x0a] with
    | (sink, .error f) => ({ w with sink }, .error (writeFailure f))
    | (sink, .ok ()) =>
      match sink.flush with
      | (sink, .error f) => ({ w with sink }, .error (writeFailure f))
      | (sink, .ok ()) => ({ w with sink }, .ok ())

/-- The line of an item in the writer's theme. -/
def line (w : Writer) (item : Item) : String := w.theme.line w.terminal item

/-- Writes an item. -/
def write (w : Writer) (item : Item) : Writer × Except Failure Unit := w.writeLine (w.line item)

/-- Writes items until one cannot be written. -/
def writeAll (w : Writer) : List Item → Writer × Except Failure Unit
  | [] => (w, .ok ())
  | item :: items =>
    match w.write item with
    | (w, .error f) => (w, .error f)
    | (w, .ok ()) => w.writeAll items

end Writer

end BenchRig.Report
