import BenchRig.Log.Entry
import BenchRig.Proofs.Ansi.Strip
import BenchRig.Report.Theme

/-!
# Decoration adds nothing but sequences

Lines of a report, lines for failures and entries of a log are the same in colours and without, once
the sequences are taken out. Each rendering is cut where decoration meets text.
-/

namespace BenchRig

open Ansi

theorem Ansi.strip_painted (terminal : Bool) (s : Style) (text : String) :
    strip (paint terminal s text).toList = strip text.toList := by
  have h := strip_paint terminal s text cuts_nil
  rwa [strip_nil, List.append_nil, List.append_nil] at h

/-! ## Lines of a report -/

namespace Report

theorem strip_labelled (label value : String) :
    strip (labelled label value).toList =
      strip label.toList ++ (": ".toList ++ strip value.toList) := by
  have hcuts : Cuts (": ".toList ++ value.toList) := cuts_cons _ (by decide)
  rw [labelled, String.toList_append, String.toList_append, List.append_assoc, strip_append hcuts,
    strip_plain_append (by decide)]

namespace Theme

variable (terminal enabled bold : Bool) (scheme : Scheme)

theorem strip_tinted (colour : Colour) (text : String) :
    strip (tinted terminal enabled colour text).toList = strip text.toList := by
  unfold tinted
  split
  · exact strip_painted terminal _ text
  · rfl

theorem strip_colouredLine (item : Item) :
    strip (colouredLine terminal enabled bold scheme item).toList =
      strip (plainLine item).toList := by
  cases item with
  | header title =>
    rw [colouredLine]
    split
    · exact strip_painted terminal _ title
    · rfl
  | note text =>
    rw [colouredLine, plainLine]
    split
    · next hempty => rw [String.isEmpty_iff.mp hempty]
    · exact strip_tinted terminal enabled _ text
  | measurement m =>
    rw [colouredLine, plainLine, measurementLine, strip_labelled, strip_labelled, strip_tinted]
  | average label ms =>
    rw [colouredLine, plainLine]
    split
    · rw [averageLine, strip_labelled, strip_labelled, strip_tinted]
    · rfl
  | memory label bytes =>
    rw [colouredLine, plainLine, memoryLine, strip_labelled, strip_labelled, strip_tinted]
  | blank => rfl

/-- A text is tinted only in a theme that is in use, on a terminal. -/
theorem tinted_eq_self (h : enabled = false ∨ terminal = false) (colour : Colour) (text : String) :
    tinted terminal enabled colour text = text := by
  unfold tinted
  rcases h with rfl | rfl
  · rfl
  · exact ite_self text

/-- Where the theme is not in use, or no styles are emitted, each item has its plain line, whichever
way that line is built. -/
theorem colouredLine_eq_plainLine (h : enabled = false ∨ terminal = false) (item : Item) :
    colouredLine terminal enabled bold scheme item = plainLine item := by
  cases item with
  | header title =>
    rcases h with rfl | rfl
    · rfl
    · exact ite_self title
  | note text =>
    rw [colouredLine, plainLine, tinted_eq_self terminal enabled h]
    split
    · next hempty => exact (String.isEmpty_iff.mp hempty).symm
    · rfl
  | measurement m =>
    rw [colouredLine, tinted_eq_self terminal enabled h]
    rfl
  | average label ms =>
    rw [colouredLine, tinted_eq_self terminal enabled h]
    exact ite_self (averageLine label ms)
  | memory label bytes =>
    rw [colouredLine, tinted_eq_self terminal enabled h]
    rfl
  | blank => rfl

end Theme

end Report

/-! ## Failures -/

theorem Cause.escape_notMem_category (c : Cause) : escape ∉ c.category.toList := by
  cases c <;> decide

theorem Failure.strip_console (f : Failure) :
    strip f.console.toList =
      "[".toList ++ (f.cause.category.toList ++ ("] ".toList ++ strip f.display.toList)) := by
  simp only [console, String.toList_append, List.append_assoc]
  rw [strip_plain_append (by decide), strip_plain_append f.cause.escape_notMem_category,
    strip_plain_append (by decide)]

theorem Failure.strip_consoleStyled (terminal : Bool) (f : Failure) :
    strip (f.consoleStyled terminal).toList = strip f.console.toList := by
  have hcuts (q : List Char) : Cuts ("] ".toList ++ q) := cuts_cons _ (by decide)
  simp only [consoleStyled, String.toList_append, List.append_assoc]
  rw [strip_plain_append (by decide), strip_paint terminal _ _ (hcuts _),
    strip_plain f.cause.escape_notMem_category, strip_plain_append (by decide), strip_painted,
    strip_console]

/-! ## Entries of a log -/

namespace Log

theorem Level.strip_colour (l : Level) (text : List Char) :
    strip (l.colour.toList ++ text) = strip text := by
  apply strip_sequence
  cases l <;> rfl

theorem Level.cuts_colour (l : Level) (text : List Char) : Cuts (l.colour.toList ++ text) := by
  cases l <;> exact cuts_cons _ (by decide)

theorem Level.strip_reset (text : List Char) :
    strip (Level.reset.toList ++ text) = strip text :=
  Ansi.strip_reset text

theorem Level.cuts_reset (text : List Char) : Cuts (Level.reset.toList ++ text) :=
  Ansi.cuts_reset text

theorem Entry.cuts_levelColumn (l : Level) (text : List Char) :
    Cuts ((levelColumn l).toList ++ text) := by
  cases l <;> exact cuts_cons _ (by decide)

/-- The level stands between two texts that nothing is known of. -/
theorem Level.strip_between (l : Level) (p : List Char) {q : List Char} (hq : Cuts q) :
    strip (p ++ (l.colour.toList ++ ((Entry.levelColumn l).toList ++ (Level.reset.toList ++ q)))) =
      strip (p ++ ((Entry.levelColumn l).toList ++ q)) := by
  rw [strip_append (l.cuts_colour _), l.strip_colour, strip_append (Level.cuts_reset _),
    Level.strip_reset, strip_append (Entry.cuts_levelColumn l _), strip_append hq]

theorem Entry.strip_console (showLocation : Bool) (e : Entry) :
    strip (e.console true showLocation).toList = strip (e.console false showLocation).toList := by
  have hcuts (q : List Char) : Cuts (" [".toList ++ q) := cuts_cons _ (by decide)
  simp only [console, if_true, Bool.false_eq_true, if_false, String.toList_append,
    List.append_assoc]
  rw [← List.append_assoc, ← List.append_assoc e.timestamp.console.toList]
  exact e.level.strip_between _ (hcuts _)

end Log

/-- Without their sequences, lines in colours are the lines without colours, for every item, failure
and entry, whatever sequences their own texts hold; and with colours switched off in either of two
places, the lines of a report are the plain ones at once. -/
theorem strip_of_decoration :
    (∀ (enabled bold terminal : Bool) (item : Report.Item),
      strip ((Report.Theme.coloured enabled bold).line terminal item).toList =
        strip (Report.Theme.plain.line terminal item).toList) ∧
    (∀ (terminal : Bool) (f : Failure),
      strip (f.formatForConsole true terminal).toList =
        strip (f.formatForConsole false terminal).toList) ∧
    (∀ (showLocation : Bool) (e : Log.Entry),
      strip (e.console true showLocation).toList = strip (e.console false showLocation).toList) ∧
    (∀ (bold terminal : Bool) (item : Report.Item),
      (Report.Theme.coloured false bold).line terminal item =
        Report.Theme.plain.line terminal item) ∧
    ∀ (enabled bold : Bool) (item : Report.Item),
      (Report.Theme.coloured enabled bold).line false item =
        Report.Theme.plain.line false item := by
  refine ⟨?_, ?_, ?_, ?_, ?_⟩
  · intro enabled bold terminal item
    exact Report.Theme.strip_colouredLine terminal enabled bold {} item
  · intro terminal f
    exact f.strip_consoleStyled terminal
  · intro showLocation e
    exact e.strip_console showLocation
  · intro bold terminal item
    exact Report.Theme.colouredLine_eq_plainLine terminal false bold {} (.inl rfl) item
  · intro enabled bold item
    exact Report.Theme.colouredLine_eq_plainLine false enabled bold {} (.inr rfl) item

end BenchRig
