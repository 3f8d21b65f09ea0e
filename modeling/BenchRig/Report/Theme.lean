import BenchRig.Report.Line
import BenchRig.Report.Speed

/-!
# Themes

A theme decides how the items of a report look. Colours only decorate: without them every line reads
the same in all themes.
-/

namespace BenchRig.Report

open Ansi (Colour Style paint)

/-- Something a report shows in one line. -/
inductive Item where
  | header (title : String)
  | note (text : String)
  | measurement (m : Measurement)
  | average (label : String) (ms : Float)
  | memory (label : String) (bytes : UInt64)
  | blank

/-- The colours of the parts of a report. -/
structure Scheme where
  header : Colour := .blue
  average : Colour := .cyan
  memory : Colour := .magenta
  note : Colour := .brightBlack
  deriving DecidableEq, Repr

/-- How items look. -/
inductive Theme where
  /-- Without colours. -/
  | plain
  /-- With colours; `bold` tells whether headers are bold, and `enabled` whether the theme is in
  use at all. -/
  | coloured (enabled bold : Bool)
  deriving DecidableEq, Repr

namespace Theme

/-- The theme of a run. -/
def ofColour (colour : Bool) : Theme := if colour then coloured true true else plain

/-- The line of an item without decoration. -/
def plainLine : Item → String
  | .header title => title
  | .note text => text
  | .measurement m => measurementLine m
  | .average label ms => averageLine label ms
  | .memory label bytes => memoryLine label bytes
  | .blank => ""

/-- A text in a colour, or as it is where the theme is not in use; `terminal` tells whether styles
are emitted at all. -/
def tinted (terminal enabled : Bool) (colour : Colour) (text : String) : String :=
  if enabled then paint terminal { colour } text else text

/-- The line of an item in colours. Headers and averages are those of a plain report where the theme
is not in use, and every other item is built up with its parts as they are. -/
def colouredLine (terminal enabled bold : Bool) (scheme : Scheme) : Item → String
  | .header title =>
    if enabled then paint terminal { colour := scheme.header, bold } title
    else plainLine (.header title)
  | .note text => if text.isEmpty then "" else tinted terminal enabled scheme.note text
  | .measurement m =>
    labelled m.name (tinted terminal enabled (Speed.ofMillis m.elapsed).colour (millis m.elapsed))
  | .average label ms =>
    if enabled then labelled label (tinted terminal enabled scheme.average (fineMillis ms))
    else averageLine label ms
  | .memory label bytes =>
    labelled label (tinted terminal enabled scheme.memory (megabytesText bytes))
  | .blank => ""

/-- The line of an item. -/
def line (terminal : Bool) : Theme → Item → String
  | plain, item => plainLine item
  | coloured enabled bold, item => colouredLine terminal enabled bold {} item

end Theme

end BenchRig.Report
