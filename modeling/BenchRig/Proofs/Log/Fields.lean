import BenchRig.Log.Logger
import BenchRig.Proofs.Json.Reads
import Mathlib.Data.List.Induction

/-!
# Fields

A table of fields is decided by the values that it has under each key, and the table that a list of
keys and values gives has the last value of each key.
-/

namespace BenchRig.Log

open Json (Value)

/-- The last value that a list gives for a key. -/
def lastValue? (entries : List (String × Value)) (key : String) : Option Value :=
  (entries.filter fun e => e.1 == key).getLast?.map Prod.snd

theorem lastValue?_concat (entries : List (String × Value)) (e : String × Value) (key : String) :
    lastValue? (entries ++ [e]) key = if e.1 = key then some e.2 else lastValue? entries key := by
  unfold lastValue?
  by_cases h : e.1 = key
  · simp [h, List.filter_append]
  · simp [h, List.filter_append]

/-- What is given last for a key is one of the values that are given. -/
theorem mem_of_lastValue? {entries : List (String × Value)} {key : String} {v : Value}
    (h : lastValue? entries key = some v) : (key, v) ∈ entries := by
  obtain ⟨⟨k, w⟩, hlast, rfl⟩ := Option.map_eq_some_iff.mp h
  obtain ⟨hmem, hkey⟩ := List.mem_filter.mp (List.mem_of_getLast? hlast)
  obtain rfl : k = key := by simpa using hkey
  exact hmem

namespace Fields

variable {fs : Fields} {key : String}

/-- What stands under a key is an entry of the table. -/
theorem get?_eq_some_iff {v : Value} : fs.get? key = some v ↔ (key, v) ∈ fs.entries := by
  constructor
  · intro h
    obtain ⟨⟨k, w⟩, hfind, rfl⟩ := Option.map_eq_some_iff.mp h
    obtain rfl : k = key := by simpa using List.find?_some hfind
    exact List.mem_of_find?_eq_some hfind
  · intro h
    rw [get?, Json.find?_key Prod.fst fs.nodup h]
    rfl

theorem get?_insert (fs : Fields) (k key : String) (v : Value) :
    (fs.insert k v).get? key = if k = key then some v else fs.get? key := by
  ext w
  rw [get?_eq_some_iff, insert, List.mem_append, List.mem_singleton, erase, List.mem_filter]
  by_cases hk : k = key
  · subst hk
    simp [eq_comm]
  · have hkey : ¬ key = k := fun h => hk h.symm
    simp [hk, hkey, get?_eq_some_iff]

theorem ofList_concat (entries : List (String × Value)) (e : String × Value) :
    ofList (entries ++ [e]) = (ofList entries).insert e.1 e.2 := by
  rw [ofList, List.foldl_append]
  rfl

/-- The table that a list gives has the last value of each key. -/
theorem get?_ofList (entries : List (String × Value)) (key : String) :
    (ofList entries).get? key = lastValue? entries key := by
  induction entries using List.reverseRecOn with
  | nil => rfl
  | append_singleton entries e ih => rw [ofList_concat, get?_insert, ih, lastValue?_concat]

/-- A new key is put at the end. -/
theorem entries_insert {value : Value} (h : key ∉ fs.entries.map Prod.fst) :
    (fs.insert key value).entries = fs.entries ++ [(key, value)] := by
  have hkeep : fs.entries.filter (fun e => e.1 != key) = fs.entries := by
    rw [List.filter_eq_self]
    intro e he
    have hne : e.1 ≠ key := fun heq => h (heq ▸ List.mem_map_of_mem he)
    simpa using hne
  simp only [insert, erase, hkeep]

theorem entries_ofList {entries : List (String × Value)} (h : (entries.map Prod.fst).Nodup) :
    (ofList entries).entries = entries := by
  induction entries using List.reverseRecOn with
  | nil => rfl
  | append_singleton entries e ih =>
    rw [List.map_append, List.nodup_append] at h
    have hfront := ih h.1
    have hfresh : e.1 ∉ (ofList entries).entries.map Prod.fst := by
      rw [hfront]
      intro hmem
      exact h.2.2 e.1 hmem e.1 (by simp) rfl
    rw [ofList_concat, entries_insert hfresh, hfront]

/-- A table is made again from its entries. -/
theorem ofList_entries (fs : Fields) : ofList fs.entries = fs := by
  have hentries := entries_ofList fs.nodup
  generalize ofList fs.entries = made at hentries
  cases made
  cases fs
  exact Fields.mk.injEq .. ▸ hentries

end Fields

/-- Within a session, its id counts as the last value that is given. -/
theorem get?_withSession (session : Option String) (fs : Fields) (key : String) :
    (withSession session fs).get? key =
      match session with
      | some id => if key = sessionKey then some (.string id) else fs.get? key
      | none => fs.get? key := by
  cases session with
  | none => rfl
  | some id =>
    rw [withSession, Fields.get?_insert]
    simp only [eq_comm]

end BenchRig.Log
