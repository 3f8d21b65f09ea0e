import BenchRig.Decimal.Fixed
import BenchRig.Measurement

/-!
# Lines of the report

A line shows a label and a number: milliseconds with one decimal, averages with three, and megabytes
with one.
-/

namespace BenchRig.Report

open Decimal (fixed)

/-- Milliseconds with one decimal. -/
def millis (ms : Float) : String := fixed 1 ms ++ "ms"

/-- Milliseconds with three decimals. -/
def fineMillis (ms : Float) : String := fixed 3 ms ++ "ms"

/-- A number of bytes in megabytes of `2 ^ 20` bytes. -/
def megabytes (bytes : UInt64) : Float := bytes.toFloat / 1024 / 1024

/-- A number of bytes as megabytes with one decimal. -/
def megabytesText (bytes : UInt64) : String := fixed 1 (megabytes bytes) ++ " MB"

/-- A label in front of what it stands for. -/
def labelled (label value : String) : String := label ++ ": " ++ value

/-- The line of a measurement. -/
def measurementLine (m : Measurement) : String := labelled m.name (millis m.elapsed)

/-- The line of an average. -/
def averageLine (label : String) (ms : Float) : String := labelled label (fineMillis ms)

/-- The line of a number of bytes. -/
def memoryLine (label : String) (bytes : UInt64) : String := labelled label (megabytesText bytes)

end BenchRig.Report
