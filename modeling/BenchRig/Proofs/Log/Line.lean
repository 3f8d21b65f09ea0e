import BenchRig.Proofs.Codec.RoundTrip
import BenchRig.Proofs.Json.Framing
import BenchRig.Proofs.Json.Nesting
import BenchRig.Proofs.Log.Family
import BenchRig.Proofs.Log.Fields
import BenchRig.Proofs.Log.Timestamp

/-!
# Lines of a log

An entry in the form for machines is one line, and the entry is read back from it. A reader refuses
the line if the values of the fields are nested too deep.
-/

namespace BenchRig.Log

open Json

/-! ## Parts of an entry -/

theorem Timestamp.reads (depth : Nat) {t : Timestamp} (h : t.Valid) :
    Reads Timestamp.decode depth (.string t.machine) t where
  floatFree := .string t.machine
  decoded d _ := by
    simp only [Timestamp.decode, Value.draft, textOf, checkText, bind, Except.bind,
      Timestamp.ofText_machine h]
    rfl

theorem Level.reads (depth : Nat) (l : Level) : Reads Level.decode depth (.string l.name) l where
  floatFree := .string l.name
  decoded d _ := by
    cases l <;> rfl

theorem Location.reads_optional (l : Option Location) :
    Reads (optional Location.decode) 1 ((l.map Location.toJson).getD .null) l := by
  cases l with
  | none => exact ⟨.null, fun _ _ => rfl⟩
  | some l =>
    refine ⟨l.reads.floatFree, ?_⟩
    intro d hd
    have hsome : optional Location.decode d l.toJson.draft =
        some <$> Location.decode d l.toJson.draft := rfl
    rw [Option.map_some, Option.getD_some, hsome, l.reads.decoded d hd]
    rfl

/-- Fields whose values are written without doubles and read as they are. -/
def Fields.Plain (fs : Fields) : Prop := ∀ m ∈ fs.entries, m.2.FloatFree ∧ m.2.Ordered

/-- How deep containers are nested in fields, their own object included. -/
def Fields.nesting (fs : Fields) : Nat := (Value.object fs.entries).nesting

theorem Fields.Plain.readsBack {fs : Fields} (h : fs.Plain) : ∀ m ∈ fs.entries, m.2.ReadsBack :=
  fun m hm => (h m hm).1.readsBack (h m hm).2

/-! ## Entries -/

theorem Entry.reads {e : Entry} (hvalid : e.timestamp.Valid) (hplain : e.fields.Plain) :
    Reads Entry.decode (max 1 e.fields.nesting + 1) e.toJson e := by
  have htimestamp := Timestamp.reads (max 1 e.fields.nesting) hvalid
  have hlevel := Level.reads (max 1 e.fields.nesting) e.level
  have hmessage := reads_text (max 1 e.fields.nesting) e.message
  have hlogger := reads_text (max 1 e.fields.nesting) e.logger
  have hfields := (reads_members (fun m hm => (hplain m hm).1) hplain.readsBack).mono
    (Nat.le_max_right 1 e.fields.nesting)
  have hthread := reads_optional_text (max 1 e.fields.nesting) e.thread
  have hlocation := (Location.reads_optional e.location).mono
    (Nat.le_max_left 1 e.fields.nesting)
  refine reads_record (by decide) (.cons (htimestamp.field _) (.cons (hlevel.field _)
    (.cons (hmessage.field _) (.cons (hlogger.field _) (.cons (hfields.field _)
    (.cons (hthread.field _) (.cons (hlocation.field _) .nil))))))) ?_
  intro r hr
  have h₁ : r.get "timestamp" Timestamp.decode = .ok e.timestamp := hr.get (by simp) htimestamp
  have h₂ : r.get "level" Level.decode = .ok e.level := hr.get (by simp) hlevel
  have h₃ : r.get "message" text = .ok e.message := hr.get (by simp) hmessage
  have h₄ : r.get "logger" text = .ok e.logger := hr.get (by simp) hlogger
  have h₅ : r.get "fields" members = .ok e.fields.entries := hr.get (by simp) hfields
  have h₆ : r.get? "thread_id" (optional text) = .ok (some e.thread) :=
    hr _ _ _ _ _ (by simp) hthread
  have h₇ : r.get? "location" (optional Location.decode) = .ok (some e.location) :=
    hr _ _ _ _ _ (by simp) hlocation
  simp only [h₁, h₂, h₃, h₄, h₅, h₆, h₇, bind, Except.bind, Fields.ofList_entries]
  rfl

/-- The members of an entry in front of its fields. -/
def Entry.front (e : Entry) : List (String × Value) :=
  [("timestamp", .string e.timestamp.machine), ("level", .string e.level.name),
    ("message", .string e.message), ("logger", .string e.logger)]

theorem Entry.toJson_eq (e : Entry) :
    e.toJson = .object (e.front ++ ("fields", .object e.fields.entries) ::
      [("thread_id", .ofString? e.thread),
        ("location", (e.location.map Location.toJson).getD .null)]) :=
  rfl

/-- The fields of an entry are refused if they are nested deeper than a reader goes. -/
theorem Entry.shape_tooDeep {e : Entry} (hvalid : e.timestamp.Valid) (hplain : e.fields.Plain)
    {d : Nat} (hdepth : d < e.fields.nesting) :
    shape.decode (d + 1) e.toJson.draft = breach .tooDeep := by
  have htimestamp := (Timestamp.reads 0 hvalid).field "timestamp"
  have hlevel := (Level.reads 0 e.level).field "level"
  have hmessage := (reads_text 0 e.message).field "message"
  have hlogger := (reads_text 0 e.logger).field "logger"
  have hfront := names_of_fields
    (.cons htimestamp (.cons hlevel (.cons hmessage (.cons hlogger .nil))))
  have hdeep : ¬(Value.object e.fields.entries).nesting ≤ d := Nat.not_le.mpr hdepth
  have hcheck : (Field.of "fields" members).check d (Value.object e.fields.entries).draft =
      breach .tooDeep := by
    simp only [Field.of, members_draft hplain.readsBack d, if_neg hdeep]
    rfl
  have hnames : (shape.fields.map (·.name)).Nodup := by decide
  have hfield : Field.of "fields" members ∈ shape.fields := by simp [shape, Shape.of]
  have hread : ∀ m ∈ e.front, ∃ f ∈ shape.fields, f.Reads 0 m := by
    intro m hm
    obtain ⟨f, hf, hreads⟩ := hfront.2 m hm
    exact ⟨f, List.mem_append_left (shape.fields.drop 4) hf, hreads⟩
  have hkeys : ((e.front ++ [("fields", Value.object e.fields.entries)]).map Prod.fst).Nodup := by
    simp [Entry.front]
  rw [Entry.toJson_eq]
  -- What follows the fields is never looked at.
  exact Shape.decode_object_error hnames hread hkeys hfield rfl (Nat.zero_le d) hcheck

/-- The text of an entry is read as the entry, unless its fields are nested too deep. -/
theorem Entry.decodeText_toJson {e : Entry} (hvalid : e.timestamp.Valid)
    (hplain : e.fields.Plain) :
    decodeText Entry.decode e.toJson.text =
      if e.fields.nesting < depthLimit then .ok e else breach .tooDeep := by
  have hreads := Entry.reads hvalid hplain
  have hlimit : depthLimit = 126 + 1 := rfl
  by_cases hdepth : e.fields.nesting < depthLimit
  · rw [if_pos hdepth]
    exact hreads.decodeText (by omega)
  · have htext : e.toJson.text.toList = e.toJson.write := by rw [Value.text, String.toList_ofList]
    have hrefused := Entry.shape_tooDeep (d := 126) hvalid hplain (by omega)
    rw [if_neg hdepth, decodeText, htext, hreads.floatFree.ofChars_write]
    simp only [Entry.decode, hlimit, hrefused, bind, Except.bind, breach]

/-! ## Lines -/

/-- What an event comes to under a key: the session's id under the session's key, if there is one,
and under any other key the value given last. -/
def Event.value? (e : Event) (session : Option String) (key : String) : Option Value :=
  match session with
  | some id => if key = sessionKey then some (.string id) else lastValue? e.fields key
  | none => lastValue? e.fields key

/-- An event whose values are written without doubles and keep their members in order. -/
def Event.Plain (e : Event) : Prop := ∀ m ∈ e.fields, m.2.FloatFree ∧ m.2.Ordered

/-- The entry that a logger makes of an event, with these fields. -/
def Logger.entryWith (l : Logger) (moment : Moment) (e : Event) (fs : Fields) : Entry :=
  { l.entry moment e with fields := fs }

/-- The text for an entry that has none. -/
def fallbackText (message : String) : String :=
  "\x7b\"error\": \"Failed to serialize log entry\", \"message\": \"" ++ message ++ "\"\x7d"

section Lines

variable {l : Logger} {session : Option String} {moment : Moment} {e : Event} {fs : Fields}

/-- What a line says about an event: it is one line, and not the text for an entry that has none;
the event is read back from it, unless a value is nested deeper than a reader goes. -/
structure Carries (l : Logger) (session : Option String) (moment : Moment) (e : Event)
    (line : String) : Prop where
  unbroken : ∀ c ∈ line.toList, ' ' ≤ c
  proper : ∀ message, line ≠ fallbackText message
  read : (∀ key v, e.value? session key = some v → v.nesting + 2 ≤ depthLimit) →
    ∃ d, decodeText Entry.decode line = .ok d ∧ d.level = e.level ∧ d.message = e.message ∧
      d.logger = l.name ∧ d.thread = moment.thread ∧ d.location = e.location ∧
      ∀ key, d.fields.get? key = e.value? session key
  refused : ∀ key v, e.value? session key = some v → depthLimit < v.nesting + 2 →
    decodeText Entry.decode line = breach .tooDeep

/-- Where nothing else stands under any key, the entries are the values of the event. -/
theorem mem_entries_iff (h : ∀ key, fs.get? key = e.value? session key) {key : String}
    {v : Value} : (key, v) ∈ fs.entries ↔ e.value? session key = some v := by
  rw [← h key, Fields.get?_eq_some_iff]

theorem plain_of_values (hplain : e.Plain) (h : ∀ key, fs.get? key = e.value? session key) :
    fs.Plain := by
  rintro ⟨key, v⟩ hm
  have hvalue := (mem_entries_iff h).mp hm
  have hlast : lastValue? e.fields key = some v → v.FloatFree ∧ v.Ordered :=
    fun hv => hplain _ (mem_of_lastValue? hv)
  unfold Event.value? at hvalue
  split at hvalue
  · split_ifs at hvalue
    · obtain rfl := Option.some.inj hvalue
      exact ⟨.string _, .string _⟩
    · exact hlast hvalue
  · exact hlast hvalue

theorem nesting_lt_iff (h : ∀ key, fs.get? key = e.value? session key) :
    fs.nesting < depthLimit ↔
      ∀ key v, e.value? session key = some v → v.nesting + 2 ≤ depthLimit := by
  have hlimit : depthLimit = 127 := rfl
  have hmembers : fs.nesting < depthLimit ↔ nestingMembers fs.entries ≤ 125 := by
    rw [Fields.nesting, Value.nesting]
    omega
  rw [hmembers, nestingMembers_le_iff]
  constructor
  · intro hle key v hv
    have hv' : v.nesting ≤ 125 := hle (key, v) ((mem_entries_iff h).mpr hv)
    omega
  · rintro hle ⟨key, v⟩ hm
    have hv := hle key v ((mem_entries_iff h).mp hm)
    exact Nat.le_of_add_le_add_right hv

/-- The first member of an entry is its time. -/
theorem Entry.write_toJson (e : Entry) : ∃ rest, e.toJson.write = '{' :: '"' :: 't' :: rest :=
  ⟨_, rfl⟩

theorem toList_fallbackText (message : String) :
    ∃ rest, (fallbackText message).toList = '{' :: '"' :: 'e' :: rest := by
  unfold fallbackText
  rw [String.toList_append, String.toList_append]
  exact ⟨_, rfl⟩

theorem Entry.text_ne_fallbackText (e : Entry) (message : String) :
    e.toJson.text ≠ fallbackText message := by
  intro heq
  obtain ⟨p, hp⟩ := e.write_toJson
  obtain ⟨q, hq⟩ := toList_fallbackText message
  have htext : e.toJson.text.toList = e.toJson.write := by rw [Value.text, String.toList_ofList]
  rw [heq, hq, hp] at htext
  cases htext

theorem Entry.unbroken_text {e : Entry} (hvalid : e.timestamp.Valid) (hplain : e.fields.Plain) :
    ∀ c ∈ e.toJson.text.toList, ' ' ≤ c := by
  rw [Value.text, String.toList_ofList]
  exact (Entry.reads hvalid hplain).floatFree.unbroken

/-- An entry with these values carries the event, in whatever order its fields stand. -/
theorem carries_render (hformat : l.format = .json) (hvalid : moment.timestamp.Valid)
    (hplain : e.Plain) (h : ∀ key, fs.get? key = e.value? session key) :
    Carries l session moment e (l.render (l.entryWith moment e fs)) := by
  -- All that is known of the text is that of an entry whose fields have these values.
  have hfields : (l.entryWith moment e fs).fields.Plain := plain_of_values hplain h
  have hdecode := Entry.decodeText_toJson (e := l.entryWith moment e fs) hvalid hfields
  have hunbroken := Entry.unbroken_text (e := l.entryWith moment e fs) hvalid hfields
  have hproper := (l.entryWith moment e fs).text_ne_fallbackText
  have hnesting : (l.entryWith moment e fs).fields.nesting < depthLimit ↔ _ := nesting_lt_iff h
  rw [Logger.render, hformat]
  generalize (l.entryWith moment e fs).toJson.text = line at *
  constructor
  case unbroken => exact hunbroken
  case proper => exact hproper
  case read =>
    intro hshallow
    rw [if_pos (hnesting.mpr hshallow)] at hdecode
    exact ⟨_, hdecode, rfl, rfl, rfl, rfl, rfl, h⟩
  case refused =>
    intro key v hv hdeep
    have hrefused : ¬(l.entryWith moment e fs).fields.nesting < depthLimit := by
      intro hshallow
      have hfits := hnesting.mp hshallow key v hv
      omega
    rwa [if_neg hrefused] at hdecode

/-- A logger for machines writes one line for an event that reaches its level, and the event is read
back from it: of equal keys the last value, and the session under its own key. -/
theorem carries_of_log (hformat : l.format = .json) (hpass : l.wouldLog e.level)
    (hvalid : moment.timestamp.Valid) (hplain : e.Plain) :
    l.log session moment e = [l.line session moment e] ∧
      Carries l session moment e (l.line session moment e) ∧
      ∀ fs : Fields, (∀ key, fs.get? key = e.value? session key) →
        Carries l session moment e (l.render (l.entryWith moment e fs)) := by
  refine ⟨?_, ?_, fun fs h => carries_render hformat hvalid hplain h⟩
  · have hreach : l.threshold.rank ≤ e.level.rank := of_decide_eq_true hpass
    rw [Logger.log_eq, if_pos hreach]
  · refine carries_render hformat hvalid hplain fun key => ?_
    rw [get?_withSession, Fields.get?_ofList]
    rfl

/-! ## The limits -/

/-- An array in an array and so on, with `depth` arrays around the innermost one. -/
def nested : Nat → Value
  | 0 => .array []
  | depth + 1 => .array [nested depth]

theorem nesting_nested (depth : Nat) : (nested depth).nesting = depth + 1 := by
  induction depth with
  | zero => rfl
  | succ depth ih => simp [nested, Value.nesting, nestingItems, ih]

theorem plain_nested (depth : Nat) : (nested depth).FloatFree ∧ (nested depth).Ordered := by
  induction depth with
  | zero => exact ⟨.array (by simp), .array (by simp)⟩
  | succ depth ih => exact ⟨.array (by simp [ih.1]), .array (by simp [ih.2])⟩

theorem valid_epoch : Timestamp.epoch.Valid where
  year := by decide
  month := by decide
  day := by decide
  hour := by decide
  minute := by decide
  second := by decide
  nano := by decide

/-- A value of as many containers as a reader goes into, and a value that the session replaces. -/
theorem carries_of_session :
    let l : Logger := { name := "APP", threshold := .info, format := .json }
    let moment : Moment := { timestamp := .epoch }
    let e : Event := ⟨.warn, "a\nb\x01", [(sessionKey, .null), ("k", nested 124)], none⟩
    ∃ line d, l.log (some "s") moment e = [line] ∧ decodeText Entry.decode line = .ok d ∧
      d.message = e.message ∧ d.fields.get? sessionKey = some (.string "s") ∧
      d.fields.get? "k" = some (nested 124) := by
  intro l moment e
  have hplain : e.Plain := by
    intro m hm
    simp only [e, List.mem_cons, List.not_mem_nil, or_false] at hm
    rcases hm with rfl | rfl
    · exact ⟨.null, .null⟩
    · exact plain_nested 124
  have hshallow : ∀ key v, e.value? (some "s") key = some v → v.nesting + 2 ≤ depthLimit := by
    intro key v hv
    unfold Event.value? at hv
    split_ifs at hv
    · obtain rfl := Option.some.inj hv
      decide
    · have hm := mem_of_lastValue? hv
      simp only [e, List.mem_cons, List.not_mem_nil, or_false, Prod.mk.injEq] at hm
      rcases hm with ⟨-, rfl⟩ | ⟨-, rfl⟩
      · decide
      · rw [nesting_nested]
        decide
  have hmain : l.log (some "s") moment e = [l.line (some "s") moment e] ∧
      Carries l (some "s") moment e (l.line (some "s") moment e) ∧ _ :=
    carries_of_log rfl rfl valid_epoch hplain
  obtain ⟨hlog, hcarries, -⟩ := hmain
  obtain ⟨d, hdecode, -, hmessage, -, -, -, hfields⟩ := hcarries.read hshallow
  refine ⟨_, d, hlog, hdecode, hmessage, hfields sessionKey, ?_⟩
  rw [hfields]
  rfl

/-- A value with one container more makes the line unreadable, and a character that JSON need not
escape is written as it is, though it is a control character. -/
theorem refused_of_nested :
    let l : Logger := { name := "APP", threshold := .info, format := .json }
    let moment : Moment := { timestamp := .epoch }
    let deep : Event := ⟨.warn, "m", [("k", nested 125)], none⟩
    let delete : Event := ⟨.warn, "\x7f", [], none⟩
    (deep.Plain ∧ l.log none moment deep = [l.line none moment deep] ∧
        decodeText Entry.decode (l.line none moment deep) = .error (.grammar .tooDeep)) ∧
      l.log none moment delete = [l.line none moment delete] ∧
        '\x7f' ∈ (l.line none moment delete).toList := by
  intro l moment deep delete
  have hplain : deep.Plain := by
    intro m hm
    obtain rfl := List.mem_singleton.mp hm
    exact plain_nested 125
  have hcarries : Carries l none moment deep (l.line none moment deep) :=
    carries_render rfl valid_epoch hplain fun key => Fields.get?_ofList deep.fields key
  have hdeep : deep.value? none "k" = some (nested 125) := rfl
  refine ⟨⟨hplain, rfl, ?_⟩, rfl, ?_⟩
  · refine hcarries.refused "k" (nested 125) hdeep ?_
    rw [nesting_nested]
    decide
  · have htext : (l.line none moment delete).toList = (l.entry moment delete).toJson.write := by
      rw [Logger.line, Logger.render, Value.text, String.toList_ofList]
      rfl
    have hmessage : '\x7f' ∈ (Value.string delete.message).write :=
      mem_writeString (by decide) (by decide)
    rw [htext]
    have hmember : ("message", Value.string delete.message) ∈ (l.entry moment delete).front :=
      List.mem_of_getElem? (i := 2) rfl
    rw [Entry.toJson_eq]
    exact mem_write_object (List.mem_append_left _ hmember) hmessage

end Lines

end BenchRig.Log
