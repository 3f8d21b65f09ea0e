import BenchRig.App
import BenchRig.Proofs.Pool.Watch
import BenchRig.Proofs.Report.Transcript

/-!
# Reports of whole runs

A run writes the opening of its report, does its work, and writes the rest only if the work has
succeeded. So there are two transcripts a report can have, and a sink that stops taking bytes holds
the front of one of them.
-/

namespace BenchRig

open Pool (Client Course Run World)
open Report (Item Sink Theme Writer lineBytes lineFailure transcript)

/-! ## Items -/

namespace Report

variable {w : Writer} {cap : Nat} {why : IoFault} {sent : List UInt8} {calls : Nat}

theorem transcript_cons (line : String) (lines : List String) :
    transcript (line :: lines) = lineBytes line ++ transcript lines := rfl

theorem transcript_append (lines more : List String) :
    transcript (lines ++ more) = transcript lines ++ transcript more := List.flatMap_append

/-- What is left when items have been written until one could not be: the sink has been sent all of
them, and they are written if they found room. -/
structure Writer.WroteAll (w after : Writer) (r : Except Failure Unit) (cap : Nat) (why : IoFault)
    (sent : List UInt8) (calls : Nat) : Prop where
  sink : after.sink.Sent cap none why sent calls
  line : after.line = w.line
  result : r = if sent.length ≤ cap then .ok () else .error (lineFailure why)

theorem Writer.writeAll_wrote (h : w.sink.Sent cap none why sent calls) (hsent : sent.length ≤ cap)
    (items : List Item) :
    w.WroteAll (w.writeAll items).1 (w.writeAll items).2 cap why
      (sent ++ transcript (items.map w.line)) (calls + items.length) := by
  induction items generalizing w sent calls with
  | nil =>
    have hnil : sent ++ transcript ([].map w.line) = sent := List.append_nil sent
    rw [hnil]
    exact ⟨h, rfl, (if_pos hsent).symm⟩
  | cons item items ih =>
    have hone := writeLine_wrote h (w.line item)
    have hline := line_writeLine w (w.line item)
    rcases hcall : w.writeLine (w.line item) with ⟨after, r⟩
    rw [hcall] at hone hline
    have hbytes : sent ++ transcript ((item :: items).map w.line) =
        sent ++ lineBytes (w.line item) ++ transcript (items.map w.line) := by
      rw [List.map_cons, transcript_cons, List.append_assoc]
    by_cases hfits : (sent ++ lineBytes (w.line item)).length ≤ cap
    · obtain rfl : r = .ok () := hone.result.trans (if_pos ⟨hfits, by simp⟩)
      have hwriteAll : w.writeAll (item :: items) = after.writeAll items := by
        rw [writeAll, write, hcall]
      have hrest := ih hone.sink hfits
      rw [hline] at hrest
      rw [hwriteAll, hbytes, List.length_cons, Nat.add_comm items.length 1, ← Nat.add_assoc]
      exact ⟨hrest.sink, hrest.line.trans hline, hrest.result⟩
    · obtain rfl : r = .error (lineFailure why) :=
        hone.result.trans (if_neg fun hc => hfits hc.1)
      have hwriteAll : w.writeAll (item :: items) = (after, .error (lineFailure why)) := by
        rw [writeAll, write, hcall]
      -- The items that are left out would have found no room: the sink counts as sent them too.
      have hover := hone.sink.overflow (Nat.lt_of_not_le hfits) (transcript (items.map w.line))
        (calls + (item :: items).length)
      rw [hwriteAll, hbytes]
      refine ⟨hover, hline, (if_neg fun hle => hfits ?_).symm⟩
      rw [List.length_append] at hle
      omega

/-- A sink that takes everything. -/
structure Sink.Open (s : Sink) : Prop where
  limit : s.limit = none
  failingFlush : s.failingFlush = none

/-- What is left when items have been written to a sink that takes everything. -/
structure Writer.WroteOpen (w after : Writer) (r : Except Failure Unit) (bytes : List UInt8) :
    Prop where
  sink : after.sink.Open
  line : after.line = w.line
  written : after.sink.written = w.sink.written ++ bytes
  result : r = .ok ()

theorem Writer.writeLine_open (h : w.sink.Open) (line : String) :
    w.WroteOpen (w.writeLine line).1 (w.writeLine line).2 (lineBytes line) := by
  have hline := line_writeLine w line
  obtain ⟨theme, terminal, sink⟩ := w
  obtain ⟨written, limit, failing, fault, flushes⟩ := sink
  obtain rfl : limit = none := h.limit
  obtain rfl : failing = none := h.failingFlush
  exact ⟨⟨rfl, rfl⟩, hline, List.append_assoc .., rfl⟩

theorem Writer.writeAll_open (h : w.sink.Open) (items : List Item) :
    w.WroteOpen (w.writeAll items).1 (w.writeAll items).2 (transcript (items.map w.line)) := by
  induction items generalizing w with
  | nil => exact ⟨h, rfl, (List.append_nil _).symm, rfl⟩
  | cons item items ih =>
    have hone := writeLine_open h (w.line item)
    rcases hcall : w.writeLine (w.line item) with ⟨after, r⟩
    rw [hcall] at hone
    obtain rfl : r = .ok () := hone.result
    have hline : after.line = w.line := hone.line
    have hwriteAll : w.writeAll (item :: items) = after.writeAll items := by
      rw [writeAll, write, hcall]
    have hrest := ih hone.sink
    rw [hline] at hrest
    rw [hwriteAll]
    refine ⟨hrest.sink, hrest.line.trans hline, ?_, hrest.result⟩
    rw [hrest.written, hone.written, List.append_assoc, List.map_cons, transcript_cons]

end Report

/-! ## Runs -/

section Runs

variable {α : Type} {opening : List Item} {closing : α → List Item} {w : Writer}

/-- The items of a report: the opening and, if the work has succeeded, what came of it. -/
def reportItems (opening : List Item) (run : Run α) (closing : α → List Item) : List Item :=
  opening ++
    match run.outcome with
    | .ok a => closing a
    | .error _ => []

theorem map_reportItems (f : Item → String) (run : Run α) :
    transcript ((reportItems opening run closing).map f) =
      transcript (opening.map f) ++
        match run.outcome with
        | .ok a => transcript ((closing a).map f)
        | .error _ => [] := by
  rw [reportItems, List.map_append, Report.transcript_append]
  cases run.outcome <;> rfl

/-- What a run shows if its sink takes everything: all of the report, and what came of the work. -/
theorem perform_open (h : w.sink.Open) (opening : List Item) (work : World → Run α)
    (closing : α → List Item) (world : World) :
    (perform w opening work closing world).writer.sink.written =
        w.sink.written ++ transcript ((reportItems opening (work world) closing).map w.line) ∧
      (perform w opening work closing world).outcome = (work world).outcome := by
  have hfront := Writer.writeAll_open h opening
  rcases hopening : w.writeAll opening with ⟨w₁, r₁⟩
  rw [hopening] at hfront
  obtain rfl : r₁ = .ok () := hfront.result
  rw [map_reportItems]
  rcases hrun : work world with ⟨world', f | a⟩
  · simp only [perform, hopening, hrun, List.append_nil]
    exact ⟨hfront.written, trivial⟩
  · have hrest := Writer.writeAll_open hfront.sink (closing a)
    rcases hclosing : w₁.writeAll (closing a) with ⟨w₂, r₂⟩
    rw [hclosing, hfront.line] at hrest
    obtain rfl : r₂ = .ok () := hrest.result
    simp only [perform, hopening, hrun, hclosing]
    rw [hrest.written, hfront.written, List.append_assoc]
    exact ⟨rfl, trivial⟩

/-- What a run shows if its sink takes `cap` bytes: the front of the report, and a failure to write
unless that is all of it. Without room for the opening, there is no work. -/
theorem perform_limited {cap : Nat} {why : IoFault} (h : w.sink.Sent cap none why [] 0)
    (opening : List Item) (work : World → Run α) (closing : α → List Item) (world : World) :
    let bytes := transcript ((reportItems opening (work world) closing).map w.line)
    (perform w opening work closing world).writer.sink.written = bytes.take cap ∧
      (perform w opening work closing world).outcome =
        (if bytes.length ≤ cap then (work world).outcome else .error (.failure (lineFailure why))) ∧
      (cap < (transcript (opening.map w.line)).length →
        (perform w opening work closing world).world = world) := by
  intro bytes
  have hbytes : bytes = _ := map_reportItems w.line (work world)
  have hfront := Writer.writeAll_wrote h (Nat.zero_le cap) opening
  rw [List.nil_append] at hfront
  rcases hopening : w.writeAll opening with ⟨w₁, r₁⟩
  rw [hopening] at hfront
  -- The opening finds room, and the outcome of the work decides what follows; or there is no work.
  by_cases hfits : (transcript (opening.map w.line)).length ≤ cap
  · obtain rfl : r₁ = .ok () := hfront.result.trans (if_pos hfits)
    have hroom : ¬cap < (transcript (opening.map w.line)).length := Nat.not_lt.mpr hfits
    rw [hbytes]
    rcases hrun : work world with ⟨world', f | a⟩
    · simp only [perform, hopening, hrun, List.append_nil, if_pos hfits, hroom, false_implies,
        and_true]
      exact hfront.sink.written
    · have hrest := Writer.writeAll_wrote hfront.sink hfits (closing a)
      rcases hclosing : w₁.writeAll (closing a) with ⟨w₂, r₂⟩
      rw [hclosing, hfront.line] at hrest
      have hresult := hrest.result
      by_cases hall : (transcript (opening.map w.line) ++
          transcript ((closing a).map w.line)).length ≤ cap
      · obtain rfl : r₂ = .ok () := hresult.trans (if_pos hall)
        simp only [perform, hopening, hrun, hclosing, if_pos hall, hroom, false_implies, and_true]
        exact hrest.sink.written
      · obtain rfl : r₂ = .error (lineFailure why) := hresult.trans (if_neg hall)
        simp only [perform, hopening, hrun, hclosing, if_neg hall, hroom, false_implies, and_true]
        exact hrest.sink.written
  · obtain rfl : r₁ = .error (lineFailure why) := hfront.result.trans (if_neg hfits)
    have hover : ¬bytes.length ≤ cap := by
      rw [hbytes, List.length_append]
      omega
    have htake : bytes.take cap = (transcript (opening.map w.line)).take cap := by
      rw [hbytes, List.take_append_of_le_length (by omega)]
    rw [if_neg hover, htake]
    simp only [perform, hopening]
    exact ⟨hfront.sink.written, trivial, fun _ => trivial⟩

/-- A run reports all or nothing of its work: it writes the opening, and the closing if the work has
succeeded, and ends as its work does. A sink that fails at some byte holds the bytes before it, and
the run fails to write, unless that is all there is to write; without room for the opening it does
no work. -/
structure AllOrNothing (flow : Writer → Shown α) (opening : List Item) (run : Run α)
    (closing : α → List Item) : Prop where
  whole : ∀ theme terminal,
    (flow { theme, terminal }).writer.sink.written =
        transcript ((reportItems opening run closing).map (theme.line terminal)) ∧
      (flow { theme, terminal }).outcome = run.outcome
  cut : ∀ theme terminal cap why,
    let bytes := transcript ((reportItems opening run closing).map (theme.line terminal))
    let shown := flow { theme, terminal, sink := Sink.fresh cap none why }
    shown.writer.sink.written = bytes.take cap ∧
      shown.outcome =
        if bytes.length ≤ cap then run.outcome
        else .error (.failure ⟨.io, "Failed to write result line: " ++ why.message⟩)
  idle : ∀ theme terminal cap why,
    cap < (transcript (opening.map (theme.line terminal))).length →
    (flow { theme, terminal, sink := Sink.fresh cap none why }).world = {}

/-- Only what the closing says about work that has succeeded matters. -/
theorem reportItems_congr {run : Run α} {closing' : α → List Item}
    (h : ∀ a, run.outcome = .ok a → closing a = closing' a) :
    reportItems opening run closing = reportItems opening run closing' := by
  unfold reportItems
  cases houtcome : run.outcome with
  | error f => rfl
  | ok a => simp only [h a houtcome]

theorem allOrNothing_perform {work : World → Run α} {closing' : α → List Item}
    (h : ∀ a, (work {}).outcome = .ok a → closing a = closing' a) :
    AllOrNothing (fun w => perform w opening work closing {}) opening (work {}) closing' where
  whole theme terminal := by
    have hopen := perform_open (w := { theme, terminal }) ⟨rfl, rfl⟩ opening work closing {}
    rwa [reportItems_congr h] at hopen
  cut theme terminal cap why := by
    have hsent := Sink.sent_fresh cap none why
    have hlimited := perform_limited
      (w := { theme, terminal, sink := Sink.fresh cap none why }) hsent opening work closing {}
    rw [reportItems_congr h] at hlimited
    exact ⟨hlimited.1, hlimited.2.1⟩
  idle theme terminal cap why hcap := by
    have hsent := Sink.sent_fresh cap none why
    have hlimited := perform_limited
      (w := { theme, terminal, sink := Sink.fresh cap none why }) hsent opening work closing {}
    exact hlimited.2.2 hcap

end Runs

/-! ## What a successful run reports -/

namespace Pool

/-- A run that succeeds has as many results as tasks. -/
theorem completed_of_runTasks {client : Client} {config : Config} {lane : Lane} {tasks : List Task}
    {watch : Bool} {course : Course} {world : World} {launch : Launch} {r : Report}
    (h : (runTasks client config lane tasks watch course world launch).outcome = .ok r) :
    r.completed = tasks.length := by
  obtain ⟨hbuild, rfl⟩ := buildable_of_runTasks h
  obtain ⟨m, early, late, -, hend⟩ := runTasks_spec client hbuild lane tasks watch course world
  rcases hend with ⟨i, message, -, hrun⟩ | ⟨-, peak, hrun⟩
  · rw [hrun] at h
    cases h
  · rw [hrun] at h
    obtain ⟨hreport, haccount⟩ := Run.outcome_of_check h
    obtain rfl := Except.ok.inj hreport
    exact length_of_checkAccounting haccount

/-- A run that succeeds reports a peak exactly if it was watched. -/
theorem isSome_peak {client : Client} {config : Config} {lane : Lane} {tasks : List Task}
    {watch : Bool} {course : Course} {world : World} {launch : Launch} {r : Report}
    (h : (runTasks client config lane tasks watch course world launch).outcome = .ok r) :
    r.peak.isSome = watch := by
  obtain ⟨-, rfl⟩ := buildable_of_runTasks h
  have hpeak := peak_of_conclude (runTasks_outcome h)
  have hsampler : (startWatch watch world).2.isSome = watch := by cases watch <;> rfl
  rw [hpeak, Option.isSome_map, isSome_await, hsampler]

theorem length_countingTasks (plan : SpawnPlan) :
    (countingTasks plan).length = plan.workers.toNat := by
  rw [countingTasks, List.length_map, length_workerIds]

theorem completed_of_spawn {processors : UInt32} {course : Course} {plan : SpawnPlan}
    {world : World} {launch : Launch} {r : Report}
    (h : (spawn processors course plan world launch).outcome = .ok r) :
    r.completed = plan.workers.toNat := by
  unfold spawn at h
  split at h
  · cases h
  · rw [← length_countingTasks]
    exact completed_of_runTasks (Run.outcome_of_check h).1

theorem submitted_of_spawnSubmitOnly {processors : UInt32} {course : Course} {plan : SpawnPlan}
    {world : World} {launch : Launch} {r : SubmitReport}
    (h : (spawnSubmitOnly processors course plan world launch).outcome = .ok r) :
    r.submitted = plan.workers.toNat := by
  unfold spawnSubmitOnly submitTasks at h
  split at h
  · cases h
  · split at h
    · cases h
    · dsimp only at h
      split_ifs at h with hsize
      · cases h
      · obtain rfl := Except.ok.inj h
        exact (not_not.mp hsize).trans (length_countingTasks plan)

end Pool

/-! ## Flows -/

/-- Counting workers that are waited for, counting workers that are left, and fetching workers: each
flow of a program reports all or nothing of its work, under every benchmark, with every plan,
client and course, and with the configured number of workers. Fetching workers are introduced and
averaged under one benchmark only, and their memory is reported exactly if it was watched. -/
theorem allOrNothing_of_flows (around : Surroundings) (kind : Kind) :
    (∀ plan : SpawnPlan,
      let workers := toString plan.workers.toNat
      AllOrNothing (fun w => runSpawn around kind w plan) [.header kind.title]
        (Pool.spawn around.processors around.course plan {} around.launch) fun r =>
          [.measurement (.ofMillis ("Spawn and complete " ++ workers ++ " workers")
              r.timings.total),
            .note ("Completed " ++ workers ++ " workers")]) ∧
    (∀ plan : SpawnPlan,
      let workers := toString plan.workers.toNat
      AllOrNothing (fun w => runSpawnOnly around kind w plan) [.header kind.title]
        (Pool.spawnSubmitOnly around.processors around.course plan {} around.launch) fun r =>
          [.measurement (.ofMillis ("Submit " ++ workers ++ " worker tasks") r.elapsed),
            .note ("Submitted " ++ workers ++ " tasks")]) ∧
    ∀ (client : Client) (watch : Bool) (plan : FetchPlan),
      let workers := toString plan.workers.toNat
      let run := Pool.fetch around.processors around.tracking client watch around.course plan {}
        around.launch
      AllOrNothing (fun w => runFetch around kind w client watch plan)
        (if kind = .fetch then
          [.header kind.title,
            .note ("Each worker makes " ++ toString plan.attempts.toNat ++ " HTTP requests to " ++
              destination plan.endpoint), .blank]
        else [.header kind.title])
        run (fun r =>
          [.measurement (.ofMillis ("Spawn " ++ workers ++ " workers") r.timings.submit),
            .measurement (.ofMillis "Wait for completion" r.timings.wait),
            .measurement (.ofMillis "Total time" r.timings.total)] ++
          (if kind = .fetch then [.average "Average per worker" r.averageWait] else []) ++
          if watch then [.memory "Peak memory" (r.peak.getD 0)] else []) ∧
      ∀ r, run.outcome = .ok r → r.peak.isSome = watch := by
  refine ⟨?_, ?_, ?_⟩
  · intro plan workers
    refine allOrNothing_perform fun r hr => ?_
    rw [spawnClosing, Pool.completed_of_spawn hr, Decimal.text_eq_toString]
    rfl
  · intro plan workers
    refine allOrNothing_perform fun r hr => ?_
    rw [submitClosing, Pool.submitted_of_spawnSubmitOnly hr, Decimal.text_eq_toString]
    rfl
  · intro client watch plan workers run
    have hpeak : ∀ r, run.outcome = .ok r → r.peak.isSome = watch :=
      fun r hr => Pool.isSome_peak (Pool.runTasks_of_fetch hr)
    refine ⟨?_, hpeak⟩
    have hopening : fetchOpening kind plan = if kind = .fetch then
        [.header kind.title,
          .note ("Each worker makes " ++ toString plan.attempts.toNat ++ " HTTP requests to " ++
            destination plan.endpoint), .blank]
        else [.header kind.title] := by
      unfold fetchOpening
      rw [Decimal.text_eq_toString]
      split_ifs <;> rfl
    rw [← hopening]
    refine allOrNothing_perform fun r hr => ?_
    have hsome := hpeak r hr
    unfold fetchClosing
    rw [Decimal.text_eq_toString]
    cases hmemory : r.peak with
    | none =>
      rw [hmemory] at hsome
      obtain rfl : false = watch := hsome
      rfl
    | some bytes =>
      rw [hmemory] at hsome
      obtain rfl : true = watch := hsome
      rfl

end BenchRig
