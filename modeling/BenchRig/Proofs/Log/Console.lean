import BenchRig.Proofs.Log.Fields
import BenchRig.Proofs.Log.Line
import BenchRig.Proofs.Text.Order
import Mathlib.Data.List.Nodup

/-!
# Lines on a console

A line on a console lists the fields of an entry, each once, in the order of their texts. It is
decided by the values that the keys have in the end: how often and in which order they were set, the
order in which a table keeps them, and the session make no difference.
-/

namespace BenchRig.Log

open Json (Value)

/-! ## Details -/

/-- The value that a detail sets under a key, if it sets one. -/
def Detail.value? (key : String) : Detail → Option Value
  | field k value => if k = key then value else none
  | location _ => none
  | failure f =>
    if key = "error_category" then some (.string f.cause.category)
    else if key = "error_exit_code" then some (.ofNat f.cause.exitCode.toNat)
    else none

/-- The location that a detail sets, if it sets one. -/
def Detail.location? : Detail → Option Location
  | location l => some l
  | _ => none

/-- The value under a key in the end: the one that is set last. -/
def finalValue? (details : List Detail) (key : String) : Option Value :=
  details.reverse.findSome? (Detail.value? key)

/-- The file and the line of the location in the end. -/
def finalPlace? (details : List Detail) : Option (String × UInt32) :=
  (details.reverse.findSome? Detail.location?).map fun l => (l.file, l.line)

theorem lastValue?_append (entries more : List (String × Value)) (key : String) :
    lastValue? (entries ++ more) key = (lastValue? more key).or (lastValue? entries key) := by
  rw [lastValue?, List.filter_append, List.getLast?_append, Option.map_or]
  rfl

theorem lastValue?_failureFields (f : Failure) (key : String) :
    lastValue? (failureFields f) key = (Detail.failure f).value? key := by
  have hfields : failureFields f = [("error_category", .string f.cause.category)] ++
      [("error_exit_code", .ofNat f.cause.exitCode.toNat)] := rfl
  rw [hfields, lastValue?_concat, ← List.nil_append [("error_category", _)], lastValue?_concat,
    Detail.value?]
  simp only [eq_comm]
  split_ifs <;> simp_all [lastValue?]

section Build

variable (level : Level) (message : String)

theorem build_concat (details : List Detail) (d : Detail) :
    Event.build level message (details ++ [d]) = (Event.build level message details).add d := by
  rw [Event.build, List.foldl_append]
  rfl

theorem lastValue?_add (e : Event) (d : Detail) (key : String) :
    lastValue? (e.add d).fields key = (d.value? key).or (lastValue? e.fields key) := by
  cases d with
  | field k value =>
    cases value with
    | none => simp [Event.add, Detail.value?]
    | some v =>
      rw [Event.add, lastValue?_concat, Detail.value?]
      split_ifs <;> rfl
  | location l => rfl
  | failure f => rw [Event.add, lastValue?_append, lastValue?_failureFields]

/-- Of the values that details set under a key, the last one counts. -/
theorem lastValue?_build (details : List Detail) (key : String) :
    lastValue? (Event.build level message details).fields key = finalValue? details key := by
  induction details using List.reverseRecOn with
  | nil => rfl
  | append_singleton details d ih =>
    rw [build_concat, lastValue?_add, ih, finalValue?, finalValue?, List.reverse_concat,
      List.findSome?_cons]
    cases d.value? key <;> rfl

theorem location_build (details : List Detail) :
    (Event.build level message details).location = details.reverse.findSome? Detail.location? := by
  induction details using List.reverseRecOn with
  | nil => rfl
  | append_singleton details d ih =>
    rw [build_concat, List.reverse_concat, List.findSome?_cons, ← ih]
    cases d with
    | field k value => cases value <;> rfl
    | _ => rfl

theorem level_build (details : List Detail) :
    (Event.build level message details).level = level ∧
      (Event.build level message details).message = message := by
  induction details using List.reverseRecOn with
  | nil => exact ⟨rfl, rfl⟩
  | append_singleton details d ih =>
    rw [build_concat]
    cases d with
    | field k value => cases value <;> exact ih
    | _ => exact ih

end Build

/-! ## Items -/

/-- The text of a key and its value. -/
def itemText (e : String × Value) : String := e.1 ++ "=" ++ e.2.text

/-- The items list every key but the session's that has a value, once and with this value, in the
order of their bytes. -/
structure Lists (value? : String → Option Value) (items : List String) : Prop where
  sorted : items.Pairwise fun a b => Text.encode a ≤ Text.encode b
  once : ∃ shown : List (String × Value), (shown.map Prod.fst).Nodup ∧
    (∀ key v, (key, v) ∈ shown ↔ key ≠ sessionKey ∧ value? key = some v) ∧
    items.Perm (shown.map itemText)

section Items

variable {value? value?' : String → Option Value} {items items' : List String}

theorem Lists.congr (h : Lists value? items)
    (hsame : ∀ key, key ≠ sessionKey → value? key = value?' key) : Lists value?' items := by
  obtain ⟨shown, hnodup, hmem, hperm⟩ := h.once
  refine ⟨h.sorted, shown, hnodup, fun key v => ?_, hperm⟩
  rw [hmem]
  exact and_congr_right fun hkey => by rw [hsame key hkey]

/-- There is only one way to list the same values. -/
theorem Lists.unique (h : Lists value? items) (h' : Lists value? items') : items = items' := by
  obtain ⟨shown, hnodup, hmem, hperm⟩ := h.once
  obtain ⟨shown', hnodup', hmem', hperm'⟩ := h'.once
  have hshown : shown.Perm shown' :=
    (List.perm_ext_iff_of_nodup (List.Nodup.of_map Prod.fst hnodup)
      (List.Nodup.of_map Prod.fst hnodup')).mpr fun e => by rw [hmem e.1 e.2, hmem' e.1 e.2]
  have hitems := (hperm.trans (hshown.map itemText)).trans hperm'.symm
  refine hitems.eq_of_pairwise (fun a b _ _ hab hba => ?_) h.sorted h'.sorted
  exact String.le_antisymm (Text.encode_le_iff.mp hab) (Text.encode_le_iff.mp hba)

theorem Lists.eq_nil_iff (h : Lists value? items) :
    items = [] ↔ ∀ key, key ≠ sessionKey → value? key = none := by
  obtain ⟨shown, -, hmem, hperm⟩ := h.once
  constructor
  · rintro rfl key hkey
    have hnone : shown = [] := List.map_eq_nil_iff.mp hperm.nil_eq.symm
    refine Option.eq_none_iff_forall_ne_some.mpr fun v hv => ?_
    have hin := (hmem key v).mpr ⟨hkey, hv⟩
    rw [hnone] at hin
    cases hin
  · intro hnone
    have hempty : shown = [] := List.eq_nil_iff_forall_not_mem.mpr fun e he => by
      obtain ⟨hkey, hv⟩ := (hmem e.1 e.2).mp he
      rw [hnone e.1 hkey] at hv
      cases hv
    rw [hempty] at hperm
    exact hperm.eq_nil

/-- The fields of an entry are listed, in whatever order a table keeps them. -/
theorem lists_fieldTexts {fs : Fields}
    (h : ∀ key, key ≠ sessionKey → fs.get? key = value? key) :
    Lists value? (Entry.fieldTexts fs) where
  sorted := by
    have htrans : ∀ a b c : String, decide (a ≤ b) → decide (b ≤ c) → decide (a ≤ c) :=
      fun a b c hab hbc =>
        decide_eq_true (String.le_trans (of_decide_eq_true hab) (of_decide_eq_true hbc))
    have htotal : ∀ a b : String, decide (a ≤ b) || decide (b ≤ a) := fun a b => by
      simpa using String.le_total a b
    have hsorted := List.pairwise_mergeSort htrans htotal
      ((fs.entries.filter fun e => e.1 != sessionKey).map itemText)
    exact hsorted.imp fun hle => Text.encode_le_iff.mpr (of_decide_eq_true hle)
  once := by
    refine ⟨fs.entries.filter fun e => e.1 != sessionKey,
      (List.filter_sublist.map Prod.fst).nodup fs.nodup, fun key v => ?_, List.mergeSort_perm _ _⟩
    rw [List.mem_filter, ← Fields.get?_eq_some_iff, bne_iff_ne, and_comm]
    exact and_congr_right fun hkey => by rw [h key hkey]

end Items

/-! ## Lines -/

/-- The items as they stand on a line. -/
def group (items : List String) : String :=
  if items.isEmpty then "" else " \x7b" ++ ", ".intercalate items ++ "\x7d"

theorem group_eq_empty_iff {items : List String} : group items = "" ↔ items = [] := by
  cases items with
  | nil => exact ⟨fun _ => rfl, fun _ => rfl⟩
  | cons item items =>
    refine ⟨fun h => ?_, fun h => (nomatch h)⟩
    have hlist := congrArg String.toList h
    simp [group] at hlist

/-- The line of a console for an entry with these items, at this place. -/
def consoleLine (l : Logger) (timestamp : Timestamp) (level : Level) (message : String)
    (items : List String) (place : Option (String × UInt32)) : String :=
  let word := Entry.levelColumn level
  timestamp.console ++ " " ++ (if l.colour then level.colour ++ word ++ Level.reset else word) ++
    " [" ++ l.name ++ "] " ++ message ++ group items ++
    match place with
    | some (file, line) => " @ " ++ file ++ ":" ++ Decimal.text line.toNat
    | none => ""

/-- The place of an entry, where its logger shows places. -/
def Logger.place? (l : Logger) (place : Option (String × UInt32)) : Option (String × UInt32) :=
  if l.showLocation then place else none

section Lines

variable {l : Logger}

theorem render_console (hformat : l.format = .console) (e : Entry) (hlogger : e.logger = l.name) :
    l.render e = consoleLine l e.timestamp e.level e.message (Entry.fieldTexts e.fields)
      (l.place? (e.location.map fun l => (l.file, l.line))) := by
  rw [Logger.render, hformat]
  simp only [Entry.console, consoleLine, Logger.place?, group, hlogger]
  cases e.location <;> cases l.showLocation <;> rfl

variable (session : Option String) (moment : Moment) (level : Level) (message : String)
  (details : List Detail)

/-- Under every key but the session's, the fields that are written have the value set last. -/
theorem get?_build {key : String} (hkey : key ≠ sessionKey) :
    (withSession session (.ofList (Event.build level message details).fields)).get? key =
      finalValue? details key := by
  rw [get?_withSession, Fields.get?_ofList, lastValue?_build]
  cases session with
  | none => rfl
  | some id => exact if_neg hkey

theorem render_build (hformat : l.format = .console) (fs : Fields) :
    l.render (l.entryWith moment (Event.build level message details) fs) =
      consoleLine l moment.timestamp level message (Entry.fieldTexts fs)
        (l.place? (finalPlace? details)) := by
  obtain ⟨hlevel, hmessage⟩ := level_build level message details
  have hline : l.render (l.entryWith moment (Event.build level message details) fs) =
      consoleLine l moment.timestamp (Event.build level message details).level
        (Event.build level message details).message (Entry.fieldTexts fs)
        (l.place? ((Event.build level message details).location.map fun l => (l.file, l.line))) :=
    render_console hformat _ rfl
  rwa [hlevel, hmessage, location_build] at hline

theorem log_build :
    l.log session moment (Event.build level message details) =
      if l.wouldLog level then
        [l.render (l.entryWith moment (Event.build level message details)
          (withSession session (.ofList (Event.build level message details).fields)))]
      else [] := by
  have hlevel := (level_build level message details).1
  have hlog : l.log session moment (Event.build level message details) =
      if l.wouldLog (Event.build level message details).level then
        [l.render (l.entryWith moment (Event.build level message details)
          (withSession session (.ofList (Event.build level message details).fields)))]
      else [] := rfl
  rwa [hlevel] at hlog

/-- A logger for a console writes one line for an event that reaches its level. The line is made of
the time, the level, the name of the logger, the message, the place, if the logger shows places, and
the items that list the values which the details set in the end; without any, there is no group. The
session, the thread and the order in which a table keeps its fields make no difference: an event
with other details that come to the same values and the same place is written in the same way. -/
theorem console_of_log (hformat : l.format = .console) :
    ∃ items, Lists (finalValue? details) items ∧
      (group items = "" ↔ ∀ key, key ≠ sessionKey → finalValue? details key = none) ∧
      let e := Event.build level message details
      let line := consoleLine l moment.timestamp level message items
        (l.place? (finalPlace? details))
      l.log session moment e = (if l.wouldLog level then [line] else []) ∧
        (∀ fs : Fields, (∀ key, key ≠ sessionKey → fs.get? key = finalValue? details key) →
          l.render (l.entryWith moment e fs) = line) ∧
        ∀ (session' : Option String) (moment' : Moment) (details' : List Detail),
          moment'.timestamp = moment.timestamp →
          (∀ key, key ≠ sessionKey → finalValue? details' key = finalValue? details key) →
          (l.showLocation → finalPlace? details' = finalPlace? details) →
          l.log session' moment' (Event.build level message details') = l.log session moment e := by
  have hlists : Lists (finalValue? details) (Entry.fieldTexts (withSession session
      (.ofList (Event.build level message details).fields))) :=
    lists_fieldTexts fun _ hkey => get?_build session level message details hkey
  refine ⟨_, hlists, group_eq_empty_iff.trans hlists.eq_nil_iff, ?_, fun fs h => ?_, ?_⟩
  · rw [log_build, render_build moment level message details hformat]
  · rw [render_build moment level message details hformat, (lists_fieldTexts h).unique hlists]
  · intro session' moment' details' htime hvalues hplace
    have hlists' : Lists (finalValue? details) (Entry.fieldTexts (withSession session'
        (.ofList (Event.build level message details').fields))) :=
      lists_fieldTexts fun _ hkey =>
        (get?_build session' level message details' hkey).trans (hvalues _ hkey)
    have hshown : l.place? (finalPlace? details') = l.place? (finalPlace? details) := by
      unfold Logger.place?
      split_ifs with hshow
      · exact hplace hshow
      · rfl
    rw [log_build, log_build, render_build _ _ _ _ hformat, render_build _ _ _ _ hformat, htime,
      hlists'.unique hlists, hshown]

/-- A key that is set twice, and the same values in another order within a session, give the same
line. -/
theorem console_of_twoChains :
    let l : Logger := { name := "APP" }
    let f : Failure := ⟨.io, "disk"⟩
    let first : List Detail := [.field "b" (some (.ofNat 1)), .failure f, .field "b" (some .null)]
    let second : List Detail :=
      [.field "b" (some .null), .field sessionKey (some .null), .failure f]
    l.format = .console ∧
      l.log (some "s") ⟨.epoch, none⟩ (.build .warn "m" second) =
        l.log none ⟨.epoch, some "main"⟩ (.build .warn "m" first) := by
  intro l f first second
  obtain ⟨items, -, -, -, -, hsame⟩ :=
    console_of_log (l := l) none ⟨.epoch, some "main"⟩ .warn "m" first rfl
  refine ⟨rfl, hsame (some "s") ⟨.epoch, none⟩ second rfl (fun key hkey => ?_) fun _ => rfl⟩
  have hsession : ¬sessionKey = key := fun h => hkey h.symm
  simp only [first, second, finalValue?, List.reverse_cons, List.reverse_nil, List.nil_append,
    List.cons_append, List.findSome?_cons, Detail.value?, if_neg hsession]
  split_ifs <;> simp_all

end Lines

end BenchRig.Log
