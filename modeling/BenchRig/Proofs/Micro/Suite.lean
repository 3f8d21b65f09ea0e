import BenchRig.Micro.Suite
import BenchRig.Proofs.Report.Refusal

/-!
# Where a suite ends

Workloads that produce what they must and whose lines are taken leave a suite as it was, with their
measurements in front of the rest. So a suite ends at the first workload that is not of this kind, and
what it leaves is decided there: by the line first, since it is written before the value is compared.
-/

namespace BenchRig.Micro

open Report (Overflows Sink Writer cut cut_of_not_overflows isPrefix_cut lineBytes lineFailure
  transcript)

variable {clock : Nat → Float} {w : Writer} {v : Workload} {ws front : List Workload}

/-- The measurements of workloads. -/
def measurements (clock : Nat → Float) (ws : List Workload) : List Measurement :=
  ws.mapIdx fun i w => ⟨w.label, clock i⟩

/-- The lines of workloads. -/
def resultLines (clock : Nat → Float) (w : Writer) (ws : List Workload) : List String :=
  (measurements clock ws).map fun m => w.line (.measurement m)

/-- The run, seen from where measurements were made in front of it. -/
def SuiteRun.behind (run : SuiteRun) (ms : List Measurement) : SuiteRun :=
  ⟨run.writer, ms.map Measurement.name ++ run.ran, run.outcome.map (ms ++ ·)⟩

theorem measurements_cons (clock : Nat → Float) (v : Workload) (ws : List Workload) :
    measurements clock (v :: ws) =
      ⟨v.label, clock 0⟩ :: measurements (fun n => clock (n + 1)) ws := List.mapIdx_cons

theorem resultLines_cons (clock : Nat → Float) (w : Writer) (v : Workload) (ws : List Workload) :
    resultLines clock w (v :: ws) =
      w.line (.measurement ⟨v.label, clock 0⟩) :: resultLines (fun n => clock (n + 1)) w ws := by
  rw [resultLines, measurements_cons, List.map_cons, resultLines]

theorem map_name_measurements (clock : Nat → Float) (ws : List Workload) :
    (measurements clock ws).map Measurement.name = ws.map Workload.label := by
  induction ws generalizing clock with
  | nil => rfl
  | cons v ws ih => rw [measurements_cons, List.map_cons, List.map_cons, ih]

/-! ## One workload -/

section Head

variable {line : String} (hline : w.line (.measurement ⟨v.label, clock 0⟩) = line)

include hline in
theorem runSuite_of_refused (hroom : ¬Overflows w.sink.limit w.sink.written)
    (h : w.sink.Refuses line) (ws : List Workload) :
    (runSuite clock w (v :: ws)).ran = [v.label] ∧
      (runSuite clock w (v :: ws)).outcome = .error (lineFailure w.sink.fault) ∧
      (runSuite clock w (v :: ws)).writer.sink.written =
        cut w.sink.limit (w.sink.written ++ lineBytes line) := by
  obtain ⟨hwritten, hresult⟩ := Writer.writeLine_of_refuses hroom h
  rcases hcall : w.writeLine line with ⟨after, r⟩
  rw [hcall] at hwritten hresult
  obtain rfl : r = .error (lineFailure w.sink.fault) := hresult
  rw [runSuite, Writer.write, hline, hcall]
  exact ⟨rfl, rfl, hwritten⟩

include hline in
theorem runSuite_of_taken (h : ¬w.sink.Refuses line) :
    let after : Writer := { w with sink := w.sink.after [line] }
    runSuite clock w (v :: ws) =
      if v.value ≠ v.expected then ⟨after, [v.label], .error (mismatch v v.value)⟩
      else (runSuite (fun n => clock (n + 1)) after ws).behind [⟨v.label, clock 0⟩] := by
  intro after
  rw [runSuite, Writer.write, hline, Writer.writeLine_of_not_refuses h]
  rfl

end Head

/-! ## Workloads in front -/

theorem SuiteRun.behind_nil (run : SuiteRun) : run.behind [] = run := by
  obtain ⟨writer, ran, outcome⟩ := run
  cases outcome <;> rfl

theorem SuiteRun.behind_behind (run : SuiteRun) (ms more : List Measurement) :
    (run.behind more).behind ms = run.behind (ms ++ more) := by
  obtain ⟨writer, ran, outcome⟩ := run
  cases outcome <;> simp [behind, Except.map]

theorem runSuite_append (h : ∀ j v, front[j]? = some v →
      ¬w.sink.RefusesAt (resultLines clock w front) j ∧ v.value = v.expected)
    (rest : List Workload) :
    runSuite clock w (front ++ rest) =
      (runSuite (fun n => clock (n + front.length))
        { w with sink := w.sink.after (resultLines clock w front) } rest).behind
        (measurements clock front) := by
  -- Sink and clock move on by one workload at each step.
  induction front generalizing w clock with
  | nil =>
    have hnothing : resultLines clock w [] = [] := rfl
    rw [hnothing, Sink.after_nil]
    exact (SuiteRun.behind_nil _).symm
  | cons v front ih =>
    obtain ⟨hline, hvalue⟩ := h 0 v rfl
    rw [resultLines_cons, Sink.refusesAt_zero] at hline
    set line := w.line (.measurement ⟨v.label, clock 0⟩) with hdef
    have hlater : ∀ j u, front[j]? = some u →
        ¬(w.sink.after [line]).RefusesAt (resultLines (fun n => clock (n + 1)) w front) j ∧
          u.value = u.expected := by
      intro j u hu
      obtain ⟨hrefused, hright⟩ := h (j + 1) u hu
      rw [resultLines_cons, Sink.refusesAt_succ] at hrefused
      exact ⟨hrefused, hright⟩
    have hrest := ih (w := { w with sink := w.sink.after [line] }) hlater
    rw [List.cons_append, runSuite_of_taken hdef.symm hline, if_neg (not_not.mpr hvalue)]
    rw [hrest, SuiteRun.behind_behind, resultLines_cons, measurements_cons, Sink.after_append]
    rfl

/-! ## The first workload that ends a suite -/

theorem resultLines_take (clock : Nat → Float) (w : Writer) (ws : List Workload) (k : Nat) :
    resultLines clock w (ws.take k) = (resultLines clock w ws).take k := by
  refine List.ext_getElem? fun i => ?_
  simp only [resultLines, measurements, List.getElem?_map, List.getElem?_mapIdx, List.getElem?_take]
  split_ifs <;> rfl

theorem getElem?_resultLines {k : Nat} (clock : Nat → Float) (w : Writer) (hv : ws[k]? = some v) :
    (resultLines clock w ws)[k]? = some (w.line (.measurement ⟨v.label, clock k⟩)) := by
  simp only [resultLines, measurements, List.getElem?_map, List.getElem?_mapIdx, hv, Option.map_some]

theorem take_succ_of_getElem? {α : Type} {xs : List α} {x : α} {k : Nat} (hx : xs[k]? = some x) :
    xs.take (k + 1) = xs.take k ++ [x] := by
  rw [List.take_add_one, hx, Option.toList_some]

/-- What runs up to a workload behind others that run through. -/
theorem runSuite_reaches {k : Nat} (hv : ws[k]? = some v)
    (hfirst : ∀ j < k, ∀ u, ws[j]? = some u →
      ¬w.sink.RefusesAt (resultLines clock w ws) j ∧ u.value = u.expected) :
    ∃ later reached rest,
      reached.line (.measurement ⟨v.label, later 0⟩) = w.line (.measurement ⟨v.label, clock k⟩) ∧
      reached.sink = w.sink.after ((resultLines clock w ws).take k) ∧
      runSuite clock w ws =
        (runSuite later reached (v :: rest)).behind (measurements clock (ws.take k)) := by
  obtain ⟨hk, hget⟩ := List.getElem?_eq_some_iff.mp hv
  have hlength : (ws.take k).length = k := List.length_take_of_le (Nat.le_of_lt hk)
  have hsplit : ws.take k ++ v :: ws.drop (k + 1) = ws := by
    rw [← hget, ← List.drop_eq_getElem_cons hk, List.take_append_drop]
  have hfront : ∀ j u, (ws.take k)[j]? = some u →
      ¬w.sink.RefusesAt (resultLines clock w (ws.take k)) j ∧ u.value = u.expected := by
    intro j u hu
    rw [List.getElem?_take] at hu
    split_ifs at hu with hj
    rw [resultLines_take, Sink.refusesAt_take _ _ hj]
    exact hfirst j hj u hu
  have hrun := runSuite_append hfront (v :: ws.drop (k + 1))
  rw [hsplit, hlength, resultLines_take] at hrun
  refine ⟨fun n => clock (n + k), _, _, ?_, ?_, hrun⟩
  · dsimp only
    rw [Nat.zero_add]
    rfl
  · rfl

section Ends

variable {k : Nat} (hroom : ¬Overflows w.sink.limit w.sink.written) (hv : ws[k]? = some v)
  (hfirst : ∀ j < k, ∀ u, ws[j]? = some u →
    ¬w.sink.RefusesAt (resultLines clock w ws) j ∧ u.value = u.expected)

include hv in
theorem ran_behind (run : SuiteRun) (hran : run.ran = [v.label]) :
    (run.behind (measurements clock (ws.take k))).ran = (ws.take (k + 1)).map Workload.label := by
  rw [SuiteRun.behind, map_name_measurements, hran, take_succ_of_getElem? hv, List.map_append,
    List.map_singleton]

include hroom hv hfirst in
theorem room_before :
    ¬Overflows w.sink.limit
      (w.sink.written ++ transcript ((resultLines clock w ws).take k)) := by
  -- Those lines were taken, so what they came to has not passed the limit.
  cases k with
  | zero => simpa [transcript] using hroom
  | succ j =>
    have hj : j < ws.length := by
      have := (List.getElem?_eq_some_iff.mp hv).1
      omega
    have htaken := (hfirst j (Nat.lt_succ_self j) ws[j] (List.getElem?_eq_getElem hj)).1
    exact (not_or.mp htaken).1

theorem transcript_take_succ {lines : List String} {line : String} (hline : lines[k]? = some line) :
    transcript (lines.take (k + 1)) = transcript (lines.take k) ++ lineBytes line := by
  rw [take_succ_of_getElem? hline, Report.transcript_concat]

include hroom hv hfirst in
theorem runSuite_of_unwritten (h : w.sink.RefusesAt (resultLines clock w ws) k) :
    (runSuite clock w ws).ran = (ws.take (k + 1)).map Workload.label ∧
      (runSuite clock w ws).outcome = .error (lineFailure w.sink.fault) ∧
      (runSuite clock w ws).writer.sink.written =
        cut w.sink.limit (w.sink.written ++ transcript ((resultLines clock w ws).take (k + 1))) := by
  obtain ⟨later, reached, rest, hline, hsink, hrun⟩ := runSuite_reaches hv hfirst
  have hk := getElem?_resultLines clock w hv
  have hrefused := (w.sink.refusesAt_iff hk).mp h
  have hbefore : ¬Overflows reached.sink.limit reached.sink.written := by
    rw [hsink]
    exact room_before hroom hv hfirst
  rw [← hsink] at hrefused
  obtain ⟨hran, houtcome, hwritten⟩ := runSuite_of_refused hline hbefore hrefused rest
  rw [hrun, transcript_take_succ hk, ← List.append_assoc]
  refine ⟨ran_behind hv _ hran, ?_, ?_⟩
  · rw [SuiteRun.behind, houtcome, hsink]
    rfl
  · rw [SuiteRun.behind, hwritten, hsink]
    rfl

include hv hfirst in
theorem runSuite_of_mismatch (h : ¬w.sink.RefusesAt (resultLines clock w ws) k)
    (hvalue : v.value ≠ v.expected) :
    (runSuite clock w ws).ran = (ws.take (k + 1)).map Workload.label ∧
      (runSuite clock w ws).outcome = .error (mismatch v v.value) ∧
      (runSuite clock w ws).writer.sink.written =
        w.sink.written ++ transcript ((resultLines clock w ws).take (k + 1)) := by
  obtain ⟨later, reached, rest, hline, hsink, hrun⟩ := runSuite_reaches hv hfirst
  have hk := getElem?_resultLines clock w hv
  have htaken := mt (w.sink.refusesAt_iff hk).mpr h
  rw [← hsink] at htaken
  rw [hrun, runSuite_of_taken hline htaken, if_pos hvalue]
  refine ⟨ran_behind hv _ rfl, rfl, ?_⟩
  rw [SuiteRun.behind, hsink, Sink.after_append, ← take_succ_of_getElem? hk]
  rfl

end Ends

theorem runSuite_of_passed (h : ∀ j u, ws[j]? = some u →
      ¬w.sink.RefusesAt (resultLines clock w ws) j ∧ u.value = u.expected) :
    (runSuite clock w ws).ran = ws.map Workload.label ∧
      (runSuite clock w ws).outcome = .ok (measurements clock ws) ∧
      (runSuite clock w ws).writer.sink.written =
        w.sink.written ++ transcript (resultLines clock w ws) := by
  have hrun := runSuite_append h []
  rw [List.append_nil] at hrun
  rw [hrun, ← map_name_measurements clock ws]
  refine ⟨List.append_nil _, ?_, rfl⟩
  exact congrArg Except.ok (List.append_nil _)

/-- A suite ends at the first workload whose line finds no room, whose flush fails, or whose value is
wrong: the workloads up to it have been run and no other, the lines in front of it are complete, and
the failure is that of the line, or else that of the value, whose line is complete as well. Without
such a workload all have been run, and the sink holds their lines. -/
theorem end_of_suite (theme : Report.Theme) (terminal : Bool) (limit failing : Option Nat)
    (why : IoFault) (clock : Nat → Float) (ws : List Workload) :
    let start : Writer :=
      { theme, terminal, sink := { limit, failingFlush := failing, fault := why } }
    let lines := (ws.mapIdx fun i v => ⟨v.label, clock i⟩).map fun m : Measurement =>
      theme.line terminal (.measurement m)
    let unwritten : Nat → Prop := fun k =>
      Overflows limit (transcript (lines.take (k + 1))) ∨ failing = some (k + 1)
    let run := runSuite clock start ws
    (∀ k v, ws[k]? = some v →
      (∀ j < k, ∀ u, ws[j]? = some u → ¬unwritten j ∧ u.value = u.expected) →
      unwritten k ∨ v.value ≠ v.expected →
      run.ran = (ws.take (k + 1)).map Workload.label ∧
      run.writer.sink.written = cut limit (transcript (lines.take (k + 1))) ∧
      transcript (lines.take k) <+: run.writer.sink.written ∧
      (unwritten k →
        run.outcome = .error ⟨.io, "Failed to write result line: " ++ why.message⟩) ∧
      (¬unwritten k →
        run.writer.sink.written = transcript (lines.take (k + 1)) ∧
        run.outcome = .error ⟨.internal, v.label ++ " produced " ++ Decimal.text v.value.toNat ++
          " instead of " ++ Decimal.text v.expected.toNat⟩)) ∧
    ((∀ k v, ws[k]? = some v → ¬unwritten k ∧ v.value = v.expected) →
      run.ran = ws.map Workload.label ∧
      (∃ ms, run.outcome = .ok ms ∧ ms.map Measurement.name = ws.map Workload.label ∧
        lines = ms.map fun m => theme.line terminal (.measurement m)) ∧
      run.writer.sink.written = transcript lines) := by
  intro start lines unwritten run
  have hunwritten : ∀ k, start.sink.RefusesAt (resultLines clock start ws) k ↔ unwritten k := by
    intro k
    have hflush : (0 : Nat) + (k + 1) = k + 1 := Nat.zero_add _
    change Overflows limit ([] ++ _) ∨ failing = some (0 + (k + 1)) ↔ unwritten k
    rw [List.nil_append, hflush]
    rfl
  have htaken : ∀ j, ¬unwritten j → ¬start.sink.RefusesAt (resultLines clock start ws) j :=
    fun j => mt (hunwritten j).mp
  have hroom : ¬Overflows start.sink.limit start.sink.written := by
    rintro ⟨cap, -, hlt⟩
    exact Nat.not_lt_zero cap hlt
  constructor
  · intro k v hv hfirst hends
    have hpassed : ∀ j < k, ∀ u, ws[j]? = some u →
        ¬start.sink.RefusesAt (resultLines clock start ws) j ∧ u.value = u.expected := by
      intro j hj u hu
      exact (hfirst j hj u hu).imp_left (htaken j)
    have hcomplete : ¬Overflows limit (transcript (lines.take k)) := room_before hroom hv hpassed
    have hline : lines[k]? = some (start.line (.measurement ⟨v.label, clock k⟩)) :=
      getElem?_resultLines clock start hv
    have hfront : transcript (lines.take k) <+: transcript (lines.take (k + 1)) := by
      rw [transcript_take_succ hline]
      exact List.prefix_append ..
    by_cases hbad : unwritten k
    · obtain ⟨hran, houtcome, hwritten⟩ :=
        runSuite_of_unwritten hroom hv hpassed ((hunwritten k).mpr hbad)
      refine ⟨hran, hwritten, ?_, fun _ => houtcome, fun hwell => absurd hbad hwell⟩
      rw [hwritten]
      exact isPrefix_cut hcomplete hfront
    · have hvalue := hends.resolve_left hbad
      obtain ⟨hran, houtcome, hwritten⟩ :=
        runSuite_of_mismatch hv hpassed (htaken k hbad) hvalue
      have hwhole : run.writer.sink.written = transcript (lines.take (k + 1)) := hwritten
      refine ⟨hran, ?_, ?_, fun hrefused => absurd hrefused hbad, fun _ => ⟨hwhole, houtcome⟩⟩
      · rw [hwhole, cut_of_not_overflows (not_or.mp hbad).1]
      · rw [hwhole]
        exact hfront
  · intro hall
    have hpassed : ∀ j u, ws[j]? = some u →
        ¬start.sink.RefusesAt (resultLines clock start ws) j ∧ u.value = u.expected := by
      intro j u hu
      exact (hall j u hu).imp_left (htaken j)
    obtain ⟨hran, houtcome, hwritten⟩ := runSuite_of_passed hpassed
    exact ⟨hran, ⟨measurements clock ws, houtcome, map_name_measurements clock ws, rfl⟩, hwritten⟩

/-- The second of three workloads has both a line that cannot be flushed and a wrong value; when
every line can be written, its value is left, and in front of it there is nothing wrong. -/
theorem end_of_twoFaults :
    let ws : List Workload :=
      [⟨"a", 3, UInt64.ofNat, 3⟩, ⟨"b", 0, fun _ => 5, 4⟩, ⟨"c", 0, fun _ => 1, 1⟩]
    let refused := runSuite (fun _ => 0.25) { sink := { failingFlush := some 2 } } ws
    let wrong := runSuite (fun _ => 0.25) {} ws
    let well := runSuite (fun _ => 0.25) {} (ws.take 1)
    (refused.ran = ["a", "b"] ∧
      refused.outcome =
        .error ⟨.io, "Failed to write result line: " ++ IoFault.incomplete.message⟩) ∧
    (wrong.ran = ["a", "b"] ∧
      wrong.outcome = .error ⟨.internal, "b" ++ " produced " ++ Decimal.text (5 : UInt64).toNat ++
        " instead of " ++ Decimal.text (4 : UInt64).toNat⟩) ∧
    well.ran = ["a"] ∧
      ∃ ms, well.outcome = .ok ms ∧ ms.map Measurement.name = ["a"] := by
  intro ws refused wrong well
  have hvalue : ∀ j < 1, ∀ u, ws[j]? = some u → u.value = u.expected := by
    intro j hj u hu
    obtain rfl : j = 0 := by omega
    obtain rfl := Option.some.inj hu
    rfl
  have hwritten : ∀ bytes (j : Nat), ¬(Overflows none bytes ∨ none = some (j + 1)) := by
    rintro bytes j (hover | hflush)
    · exact Report.not_overflows_none hover
    · cases hflush
  refine ⟨?_, ?_, ?_⟩
  · obtain ⟨hran, -, -, hline, -⟩ :=
      (end_of_suite .plain true none (some 2) .incomplete (fun _ => 0.25) ws).1 1 _ rfl (by
        intro j hj u hu
        refine ⟨?_, hvalue j hj u hu⟩
        rintro (hover | hflush)
        · exact Report.not_overflows_none hover
        · have := Option.some.inj hflush
          omega) (.inl (.inr rfl))
    exact ⟨hran, hline (.inr rfl)⟩
  · obtain ⟨hran, -, -, -, hmismatch⟩ :=
      (end_of_suite .plain true none none .incomplete (fun _ => 0.25) ws).1 1 _ rfl
        (fun j hj u hu => ⟨hwritten _ j, hvalue j hj u hu⟩) (.inr (by decide))
    exact ⟨hran, (hmismatch (hwritten _ 1)).2⟩
  · obtain ⟨hran, ⟨ms, houtcome, hnames, -⟩, -⟩ :=
      (end_of_suite .plain true none none .incomplete (fun _ => 0.25) (ws.take 1)).2 (by
        intro j u hu
        obtain ⟨hj, -⟩ := List.getElem?_eq_some_iff.mp hu
        have hlt : j < 1 := hj
        refine ⟨hwritten _ j, hvalue j hlt u ?_⟩
        rwa [List.getElem?_take_of_lt hlt] at hu)
    exact ⟨hran, ms, houtcome, hnames⟩

end BenchRig.Micro
