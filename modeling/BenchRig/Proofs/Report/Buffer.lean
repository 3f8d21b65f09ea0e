import BenchRig.Proofs.Report.Refusal
import BenchRig.Proofs.Text.Lines
import BenchRig.Proofs.Text.Utf8

/-!
# What a buffer gives back

A sink that takes everything holds the bytes of all that was written to it, wherever the writes were
cut. Read as text it is what was written, and read as lines it is the lines of a report, as long as
none of them has a line end of its own.
-/

namespace BenchRig.Report

theorem transcript_eq_encode (lines : List String) :
    transcript lines =
      Text.encode (String.ofList ((lines.map String.toList).flatMap (· ++ ['\n']))) := by
  have hnewline : String.utf8EncodeChar '\n' = [0x0a] := rfl
  have hline : ∀ line : String,
      (line.toList ++ ['\n']).flatMap String.utf8EncodeChar = lineBytes line := by
    intro line
    rw [List.flatMap_append, List.flatMap_singleton, hnewline]
    rfl
  simp only [transcript, Text.encode, String.toList_ofList, List.flatMap_map, List.flatMap_assoc,
    hline]

theorem Sink.lines_of_transcript {s : Sink} {lines : List String}
    (hwritten : s.written = transcript lines) (h : ∀ line ∈ lines, Text.Whole line.toList) :
    s.lines = lines := by
  have hwhole : ∀ cs ∈ lines.map String.toList, Text.Whole cs := by
    intro cs hmem
    obtain ⟨line, hline, rfl⟩ := List.mem_map.mp hmem
    exact h line hline
  rw [Sink.lines, contents, hwritten, transcript_eq_encode, Text.decode_encode, Text.lines,
    String.toList_ofList, Text.linesOnto_flatMap hwhole, List.map_map]
  simp

theorem Sink.written_foldl {s : Sink} (hlimit : s.limit = none) (chunks : List (List UInt8)) :
    (chunks.foldl (fun s bytes => (s.write bytes).1) s).written = s.written ++ chunks.flatten := by
  induction chunks generalizing s with
  | nil => rw [List.foldl_nil, List.flatten_nil, List.append_nil]
  | cons bytes chunks ih =>
    have hroom : ¬Overflows s.limit (s.written ++ bytes) := by
      rw [hlimit]
      exact not_overflows_none
    have hrest := ih (s := { s with written := s.written ++ bytes }) hlimit
    rw [List.foldl_cons, write_of_not_overflows hroom, hrest, List.flatten_cons, List.append_assoc]

/-- A buffer gives back the lines that were written to it, be they of any making or the items of a
report, if each of them is a whole line; and any text that was written in parts, wherever its bytes
were cut. -/
theorem buffer_of_calls (theme : Theme) (terminal : Bool) :
    (∀ lines : List String, (∀ line ∈ lines, Text.Whole line.toList) →
      (({ theme, terminal } : Writer).writeLines lines).sink.lines = lines) ∧
    (∀ items : List Item, (∀ item ∈ items, Text.Whole (theme.line terminal item).toList) →
      (items.foldl (fun w item => (w.write item).1) ({ theme, terminal } : Writer)).sink.lines =
        items.map (theme.line terminal)) ∧
    ∀ (text : String) (chunks : List (List UInt8)), chunks.flatten = Text.encode text →
      (chunks.foldl (fun s bytes => (s.write bytes).1) ({} : Sink)).contents = text := by
  have hlines : ∀ lines : List String, (∀ line ∈ lines, Text.Whole line.toList) →
      (({ theme, terminal } : Writer).writeLines lines).sink.lines = lines := by
    intro lines hwhole
    rw [Writer.writeLines_of_unlimited rfl rfl]
    exact Sink.lines_of_transcript rfl hwhole
  refine ⟨hlines, ?_, ?_⟩
  · intro items hwhole
    rw [Writer.foldl_write]
    refine hlines _ ?_
    intro line hmem
    obtain ⟨item, hitem, rfl⟩ := List.mem_map.mp hmem
    exact hwhole item hitem
  · intro text chunks hchunks
    rw [Sink.contents, Sink.written_foldl rfl, hchunks]
    exact Text.decode_encode text

theorem buffer_of_blankLines :
    (∀ line ∈ ["", "a: b", "", ""], Text.Whole line.toList) ∧
      (({} : Writer).writeLines ["", "a: b", "", ""]).sink.lines = ["", "a: b", "", ""] ∧
      (∀ item ∈ [Item.note "", .note "ä", .blank], Text.Whole (Theme.plain.line true item).toList) ∧
      ([Item.note "", .note "ä", .blank].foldl (fun w item => (w.write item).1)
        ({} : Writer)).sink.lines = ["", "ä", ""] ∧
      [[0xC3], [0xA4, 0xE2], [], [0x82], [0xAC]].flatten = Text.encode "ä€" ∧
      ([[0xC3], [0xA4, 0xE2], [], [0x82], [0xAC]].foldl (fun s bytes => (s.write bytes).1)
        ({} : Sink)).contents = "ä€" := by
  have hblank : ∀ line ∈ ["", "a: b", "", ""], Text.Whole line.toList := by decide
  have hitems : ∀ item ∈ [Item.note "", .note "ä", .blank],
      Text.Whole (Theme.plain.line true item).toList := by decide
  have hparts : [[0xC3], [0xA4, 0xE2], [], [0x82], [0xAC]].flatten = Text.encode "ä€" := by decide
  obtain ⟨hlines, hreport, hcontents⟩ := buffer_of_calls .plain true
  exact ⟨hblank, hlines _ hblank, hitems, hreport _ hitems, hparts, hcontents _ _ hparts⟩

end BenchRig.Report
