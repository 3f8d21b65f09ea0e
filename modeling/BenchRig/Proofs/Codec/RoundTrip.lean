import BenchRig.Codec.Log
import BenchRig.Codec.Result
import BenchRig.Proofs.Json.Reads

/-!
# What is written as JSON is read back

Results, tallies, plans and locations are the same after they were written as JSON text and decoded
from it. It follows that no two of them are written alike.
-/

namespace BenchRig

open Json

/-- Values as they are written, of which all that satisfy `valid` are read back and none shares its
text with another. -/
structure RoundTrips {α : Type} (decode : Decoder α) (toJson : α → Value) (valid : α → Prop) :
    Prop where
  decoded : ∀ a, valid a → decodeText decode (toJson a).text = .ok a
  injective : ∀ a b, valid a → valid b → (toJson a).text = (toJson b).text → a = b

theorem RoundTrips.of_reads {α : Type} {decode : Decoder α} {toJson : α → Value}
    {valid : α → Prop} {depth : Nat} (h : ∀ a, valid a → Reads decode depth (toJson a) a)
    (hdepth : depth ≤ depthLimit) : RoundTrips decode toJson valid where
  decoded a ha := (h a ha).decodeText hdepth
  injective a b ha hb heq := by
    have hreadA := (h a ha).decodeText hdepth
    have hreadB := (h b hb).decodeText hdepth
    rw [heq, hreadB] at hreadA
    exact (Except.ok.inj hreadA).symm

/-! ## Results -/

theorem Outcome.reads (o : Outcome) : Reads Outcome.decode 2 o.toJson o := by
  cases o with
  | success attempt status =>
    have hattempt := reads_uint32 0 attempt
    have hstatus := reads_uint16 0 status
    refine reads_variant (by decide) successShape (fun _ _ => rfl) (by decide)
      (.cons (hattempt.field _) (.cons (hstatus.field _) .nil)) ?_
    intro r hr
    have h₁ : r.get "attempt" uint32 = .ok attempt := hr.get (by simp) hattempt
    have h₂ : r.get "status" uint16 = .ok status := hr.get (by simp) hstatus
    simp only [h₁, h₂, bind, Except.bind]
    rfl
  | failed attempt error =>
    have hattempt := reads_uint32 0 attempt
    have herror := reads_text 0 error
    refine reads_variant (by decide) failedShape (fun _ _ => rfl) (by decide)
      (.cons (hattempt.field _) (.cons (herror.field _) .nil)) ?_
    intro r hr
    have h₁ : r.get "attempt" uint32 = .ok attempt := hr.get (by simp) hattempt
    have h₂ : r.get "error" text = .ok error := hr.get (by simp) herror
    simp only [h₁, h₂, bind, Except.bind]
    rfl

theorem Payload.reads (p : Payload) : Reads Payload.decode 5 p.toJson p := by
  cases p with
  | sum n =>
    have hn := reads_uint64 4 n
    refine reads_alternative (by decide) hn.floatFree ?_
    intro d hd
    have h : single uint64 (some (Value.ofNat n.toNat).draft) d = .ok n := hn.decoded d hd
    rw [if_pos rfl, h]
    rfl
  | requests os =>
    have hattempts := reads_list fun o (_ : o ∈ os) => o.reads
    refine reads_variant (by decide) requestsShape (fun _ _ => rfl) (by decide)
      (.cons (hattempts.field _) .nil) ?_
    intro r hr
    have h : r.get "attempts" (list Outcome.decode) = .ok os := hr.get (by simp) hattempts
    simp only [h, bind, Except.bind]
    rfl

theorem WorkerResult.reads (w : WorkerResult) : Reads WorkerResult.decode 6 w.toJson w := by
  have hid := reads_uint32 5 w.id
  have hpayload := w.payload.reads
  refine reads_record (by decide) (.cons (hid.field _) (.cons (hpayload.field _) .nil)) ?_
  intro r hr
  have h₁ : r.get "worker_id" uint32 = .ok w.id := hr.get (by simp) hid
  have h₂ : r.get "payload" Payload.decode = .ok w.payload := hr.get (by simp) hpayload
  simp only [h₁, h₂, bind, Except.bind]
  rfl

theorem WorkerResult.reads_list (ws : List WorkerResult) :
    Reads (list WorkerResult.decode) 7 (.array (ws.map WorkerResult.toJson)) ws :=
  Json.reads_list fun w _ => w.reads

/-- A tally whose numbers fit into 64 bits. -/
def Tally.Fits (t : Tally) : Prop := t.succeeded < UInt64.size ∧ t.failed < UInt64.size

theorem Tally.reads {t : Tally} (h : t.Fits) : Reads Tally.decode 2 t.toJson t := by
  have hsucceeded := reads_count 1 h.1
  have hfailed := reads_count 1 h.2
  have herrors : Reads (list text) 1 (.ofStrings t.sampleErrors) t.sampleErrors :=
    Json.reads_list fun e _ => reads_text 0 e
  refine reads_record (by decide)
    (.cons (hsucceeded.field _) (.cons (hfailed.field _) (.cons (herrors.field _) .nil))) ?_
  intro r hr
  have h₁ : r.get "succeeded" Json.count = .ok t.succeeded := hr.get (by simp) hsucceeded
  have h₂ : r.get "failed" Json.count = .ok t.failed := hr.get (by simp) hfailed
  have h₃ : r.get "sample_errors" (list text) = .ok t.sampleErrors := hr.get (by simp) herrors
  simp only [h₁, h₂, h₃, bind, Except.bind]
  rfl

/-! ## Plans and locations -/

theorem SpawnPlan.reads (p : SpawnPlan) : Reads SpawnPlan.decode 1 p.toJson p := by
  have hworkers := reads_uint32 0 p.workers
  have hiterations := reads_uint64 0 p.iterations
  refine reads_record (by decide)
    (.cons (hworkers.field _) (.cons (hiterations.field _) .nil)) ?_
  intro r hr
  have h₁ : r.get "workers" uint32 = .ok p.workers := hr.get (by simp) hworkers
  have h₂ : r.get "iterations" uint64 = .ok p.iterations := hr.get (by simp) hiterations
  simp only [h₁, h₂, bind, Except.bind]
  rfl

theorem Log.Location.reads (l : Log.Location) : Reads Log.Location.decode 1 l.toJson l := by
  have hfile := reads_text 0 l.file
  have hline := reads_uint32 0 l.line
  have hmodule := reads_optional_text 0 l.module
  refine reads_record (by decide)
    (.cons (hfile.field _) (.cons (hline.field _) (.cons (hmodule.field _) .nil))) ?_
  intro r hr
  have h₁ : r.get "file" text = .ok l.file := hr.get (by simp) hfile
  have h₂ : r.get "line" uint32 = .ok l.line := hr.get (by simp) hline
  have h₃ : r.get? "module" (optional text) = .ok (some l.module) :=
    hr _ _ _ _ _ (by simp) hmodule
  simp only [h₁, h₂, h₃, bind, Except.bind]
  rfl

theorem Duration.seconds_lt (d : Duration) : d.seconds < UInt64.size :=
  Nat.div_lt_of_lt_mul (Nat.mul_comm _ _ ▸ d.bounded)

theorem Duration.subsecond_lt (d : Duration) : d.subsecond < UInt32.size :=
  Nat.lt_trans (Nat.mod_lt d.nanos (by decide)) (by decide)

theorem Duration.ofParts?_parts (d : Duration) : ofParts? d.seconds d.subsecond = some d := by
  have hparts : d.seconds * nanosPerSecond + d.subsecond = d.nanos := Nat.div_add_mod' _ _
  simp only [ofParts?, hparts, d.bounded, dif_pos]

-- Stated of the function as a whole: of its values, the kernel would first work out the sum in
-- `ofParts?` and count the nanoseconds of a second one by one.
theorem Duration.checked_eq : checked = fun seconds nanoseconds =>
    match ofParts? seconds.toNat nanoseconds.toNat with
    | some d => .ok d
    | none => reject (.other "overflow deserializing Duration") := rfl

/-- A duration is put together again from its parts. -/
theorem Duration.checked_parts (d : Duration) :
    checked (.ofNat d.seconds) (.ofNat d.subsecond) = .ok d := by
  rw [checked_eq]
  simp only [UInt64.toNat_ofNat_of_lt' d.seconds_lt, UInt32.toNat_ofNat_of_lt' d.subsecond_lt,
    d.ofParts?_parts]

theorem Duration.reads (d : Duration) : Reads Duration.decode 1 d.toJson d := by
  have hsecs : Reads uint64 0 (.ofNat d.seconds) (.ofNat d.seconds) := by
    have h := reads_uint64 0 (.ofNat d.seconds)
    rwa [UInt64.toNat_ofNat_of_lt' d.seconds_lt] at h
  have hnanos : Reads uint32 0 (.ofNat d.subsecond) (.ofNat d.subsecond) := by
    have h := reads_uint32 0 (.ofNat d.subsecond)
    rwa [UInt32.toNat_ofNat_of_lt' d.subsecond_lt] at h
  have hrecord : Reads (fun n x => shape.decode n x >>= fun r => do
      checked (← r.get "secs" uint64) (← r.get "nanos" uint32)) 1 d.toJson d := by
    refine reads_record (by decide) (.cons (hsecs.field _) (.cons (hnanos.field _) .nil)) ?_
    intro r hr
    have h₁ : r.get "secs" uint64 = .ok (.ofNat d.seconds) := hr.get (by simp) hsecs
    have h₂ : r.get "nanos" uint32 = .ok (.ofNat d.subsecond) := hr.get (by simp) hnanos
    simp only [h₁, h₂, bind, Except.bind]
    exact d.checked_parts
  exact ⟨hrecord.floatFree, hrecord.decoded⟩

theorem FetchPlan.reads (p : FetchPlan) : Reads FetchPlan.decode 2 p.toJson p := by
  have hworkers := reads_uint32 1 p.workers
  have hattempts := reads_uint32 1 p.attempts
  have hendpoint := reads_text 1 p.endpoint
  have htimeout := p.timeout.reads
  refine reads_record (by decide) (.cons (hworkers.field _) (.cons (hattempts.field _)
    (.cons (hendpoint.field _) (.cons (htimeout.field _) .nil)))) ?_
  intro r hr
  have h₁ : r.get "workers" uint32 = .ok p.workers := hr.get (by simp) hworkers
  have h₂ : r.get "attempts" uint32 = .ok p.attempts := hr.get (by simp) hattempts
  have h₃ : r.get "endpoint" text = .ok p.endpoint := hr.get (by simp) hendpoint
  have h₄ : r.get "request_timeout" Duration.decode = .ok p.timeout := hr.get (by simp) htimeout
  simp only [h₁, h₂, h₃, h₄, bind, Except.bind]
  rfl

/-! ## All of them -/

/-- Every list of results, every outcome, payload and result, every tally of numbers that fit into
64 bits, every plan and every location is read back from the text that is written for it. -/
theorem roundTrips_of_toJson :
    RoundTrips (list WorkerResult.decode) (fun ws => .array (ws.map WorkerResult.toJson))
      (fun _ => True) ∧
    RoundTrips Outcome.decode Outcome.toJson (fun _ => True) ∧
    RoundTrips Payload.decode Payload.toJson (fun _ => True) ∧
    RoundTrips WorkerResult.decode WorkerResult.toJson (fun _ => True) ∧
    RoundTrips Tally.decode Tally.toJson Tally.Fits ∧
    RoundTrips SpawnPlan.decode SpawnPlan.toJson (fun _ => True) ∧
    RoundTrips Log.Location.decode Log.Location.toJson (fun _ => True) ∧
    RoundTrips FetchPlan.decode FetchPlan.toJson (fun _ => True) ∧
    RoundTrips Duration.decode Duration.toJson (fun _ => True) :=
  ⟨.of_reads (fun ws _ => WorkerResult.reads_list ws) (by decide),
    .of_reads (fun o _ => o.reads) (by decide),
    .of_reads (fun p _ => p.reads) (by decide),
    .of_reads (fun w _ => w.reads) (by decide),
    .of_reads (fun _ h => Tally.reads h) (by decide),
    .of_reads (fun p _ => p.reads) (by decide),
    .of_reads (fun l _ => l.reads) (by decide),
    .of_reads (fun p _ => p.reads) (by decide),
    .of_reads (fun d _ => d.reads) (by decide)⟩

/-- The largest numbers a tally can have, and an error that is all escapes. -/
theorem roundTrips_of_fullTally :
    let t : Tally := ⟨18446744073709551615, 18446744073709551615, ["\"\\\n\x01"]⟩
    t.Fits ∧ decodeText Tally.decode t.toJson.text = .ok t := by
  intro t
  have hfits : t.Fits := ⟨by decide, by decide⟩
  exact ⟨hfits, roundTrips_of_toJson.2.2.2.2.1.decoded t hfits⟩

end BenchRig
