import BenchRig.IoFault
import BenchRig.Text.Lines
import BenchRig.Text.Utf8

/-!
# Sinks

A sink takes bytes. It may be limited to a number of bytes, after which every write fails, and one
of its flushes may fail. A write that crosses the limit is accepted in part.
-/

namespace BenchRig.Report

/-- Where a report is written to. -/
structure Sink where
  /-- Everything accepted so far. -/
  written : List UInt8 := []
  /-- How many bytes are accepted in all, if that is limited. -/
  limit : Option Nat := none
  /-- The number of the flush that fails, if one does. -/
  failingFlush : Option Nat := none
  /-- Why it fails. -/
  fault : IoFault := .incomplete
  /-- How often it was flushed. -/
  flushes : Nat := 0

namespace Sink

/-- The sink after it has taken `bytes`, and whether it took them all. -/
def write (s : Sink) (bytes : List UInt8) : Sink × Except IoFault Unit :=
  match s.limit with
  | none => ({ s with written := s.written ++ bytes }, .ok ())
  | some limit =>
    let room := limit - s.written.length
    ({ s with written := s.written ++ bytes.take room },
      if bytes.length ≤ room then .ok () else .error s.fault)

/-- The sink after a flush. -/
def flush (s : Sink) : Sink × Except IoFault Unit :=
  let n := s.flushes + 1
  ({ s with flushes := n }, if s.failingFlush = some n then .error s.fault else .ok ())

/-- Everything accepted so far, as text. -/
def contents (s : Sink) : String := Text.decode s.written

/-- Everything accepted so far, as lines. -/
def lines (s : Sink) : List String := Text.lines s.contents

end Sink

end BenchRig.Report
