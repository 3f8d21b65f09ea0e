import BenchRig.Json.Decoder
import BenchRig.Proofs.Json.Scan
import Mathlib.Data.List.Forall2

/-!
# Decoders that undo an encoding

A decoder reads a value as what the value was made from. There is one lemma for each way of building
decoders, so a new record needs no more than the list of its fields. The number that goes with the
relation is how many containers are nested in the value.
-/

namespace BenchRig.Json

variable {α : Type} {decode : Decoder α} {depth : Nat} {v : Value} {a : α}

/-- The decoder reads the value, of at most the given depth, as `a`. -/
structure Reads (decode : Decoder α) (depth : Nat) (v : Value) (a : α) : Prop where
  floatFree : v.FloatFree
  decoded : ∀ d, depth ≤ d → decode d v.draft = .ok a

theorem Reads.decodeText (h : Reads decode depth v a) (hdepth : depth ≤ depthLimit) :
    decodeText decode v.text = .ok a := by
  have htext : v.text.toList = v.write := by rw [Value.text, String.toList_ofList]
  rw [Json.decodeText, htext, h.floatFree.ofChars_write]
  simp only [h.decoded depthLimit hdepth, bind, Except.bind]
  rfl

theorem enter_of_le {d : Nat} (h : depth + 1 ≤ d) : ∃ e, enter d = .ok e ∧ depth ≤ e := by
  cases d with
  | zero => omega
  | succ d => exact ⟨d, rfl, by omega⟩

/-! ## Plain values -/

theorem exists_integer_eq_ofNat {n : Nat} (h : n < UInt64.size) :
    ∃ i : Integer, i.val = n ∧ Value.ofNat n = .integer i := by
  have hword : isWord n = true := by
    simp only [isWord, Bool.and_eq_true, decide_eq_true_eq]
    simp only [UInt64.size] at h
    omega
  refine ⟨⟨n, hword⟩, rfl, ?_⟩
  rw [Value.ofNat, Value.ofInt, dif_pos hword]

theorem floatFree_ofNat {n : Nat} (h : n < UInt64.size) : (Value.ofNat n).FloatFree := by
  obtain ⟨i, -, hi⟩ := exists_integer_eq_ofNat h
  rw [hi]
  exact .integer i

theorem unsigned_ofNat {n bound : Nat} (hn : n < bound) (hbound : bound ≤ UInt64.size)
    (expected : String) : (Value.ofNat n).draft.unsigned bound expected = .ok n := by
  obtain ⟨i, hval, hi⟩ := exists_integer_eq_ofNat (Nat.lt_of_lt_of_le hn hbound)
  have hrange : 0 ≤ i.val ∧ i.val < bound := by omega
  have hnat : i.val.toNat = n := by omega
  rw [hi, Value.draft, Draft.unsigned, if_pos hrange, hnat]

/-- A number below a bound, turned into a number of another type. -/
theorem reads_unsigned (depth : Nat) {n bound : Nat} (hn : n < bound) (hbound : bound ≤ UInt64.size)
    (expected : String) (ofNat : Nat → α) :
    Reads (fun _ d => return ofNat (← d.unsigned bound expected)) depth (.ofNat n) (ofNat n) where
  floatFree := floatFree_ofNat (Nat.lt_of_lt_of_le hn hbound)
  decoded _ _ := by
    rw [unsigned_ofNat hn hbound]
    rfl

theorem reads_uint16 (depth : Nat) (n : UInt16) : Reads uint16 depth (.ofNat n.toNat) n := by
  have h := reads_unsigned depth n.toNat_lt (by decide) "u16" UInt16.ofNat
  rwa [UInt16.ofNat_toNat] at h

theorem reads_uint32 (depth : Nat) (n : UInt32) : Reads uint32 depth (.ofNat n.toNat) n := by
  have h := reads_unsigned depth n.toNat_lt (by decide) "u32" UInt32.ofNat
  rwa [UInt32.ofNat_toNat] at h

theorem reads_uint64 (depth : Nat) (n : UInt64) : Reads uint64 depth (.ofNat n.toNat) n := by
  have h := reads_unsigned depth n.toNat_lt (by decide) "u64" UInt64.ofNat
  rwa [UInt64.ofNat_toNat] at h

theorem reads_count (depth : Nat) {n : Nat} (h : n < UInt64.size) :
    Reads count depth (.ofNat n) n where
  floatFree := floatFree_ofNat h
  decoded _ _ := unsigned_ofNat h (Nat.le_refl _) "usize"

theorem reads_text (depth : Nat) (s : String) : Reads text depth (.string s) s where
  floatFree := .string s
  decoded _ _ := rfl

theorem reads_optional_text (depth : Nat) (s : Option String) :
    Reads (optional text) depth (.ofString? s) s := by
  cases s with
  | none => exact ⟨.null, fun _ _ => rfl⟩
  | some s => exact ⟨.string s, fun _ _ => rfl⟩

/-! ## Lists -/

theorem mapM_draftItems {d : Nat} {toJson : α → Value} {as : List α}
    (h : ∀ a ∈ as, decode d (toJson a).draft = .ok a) :
    (draftItems (as.map toJson)).mapM (decode d) = .ok as := by
  induction as with
  | nil => rfl
  | cons a as ih =>
    have ha := h a List.mem_cons_self
    have has := ih fun b hb => h b (List.mem_cons_of_mem _ hb)
    simp only [List.map_cons, draftItems, List.mapM_cons, ha, has, bind, Except.bind]
    rfl

theorem reads_list {toJson : α → Value} {as : List α}
    (h : ∀ a ∈ as, Reads decode depth (toJson a) a) :
    Reads (list decode) (depth + 1) (.array (as.map toJson)) as where
  floatFree := by
    refine .array fun v hv => ?_
    obtain ⟨a, ha, rfl⟩ := List.mem_map.mp hv
    exact (h a ha).floatFree
  decoded d hd := by
    obtain ⟨e, henter, he⟩ := enter_of_le hd
    have hitems := mapM_draftItems fun a ha => (h a ha).decoded e he
    simp only [Value.draft, list, henter, hitems, bind, Except.bind]
    rfl

/-! ## Records -/

/-- The field can be decoded from the member: it has the member's name, and the check passes. -/
structure Field.Reads (depth : Nat) (f : Field) (m : String × Value) : Prop where
  name : f.name = m.1
  floatFree : m.2.FloatFree
  checked : ∀ d, depth ≤ d → f.check d m.2.draft = .ok ()

theorem Reads.field (h : Reads decode depth v a) (name : String) :
    (Field.of name decode).Reads depth (name, v) where
  name := rfl
  floatFree := h.floatFree
  checked d hd := by
    simp only [Field.of, h.decoded d hd]
    rfl

/-- Where no key occurs twice, the key of an element finds the element. -/
theorem find?_key {β : Type} (key : β → String) {l : List β} (hnodup : (l.map key).Nodup) {x : β}
    (hx : x ∈ l) : (l.find? fun y => key y == key x) = some x := by
  induction l with
  | nil => cases hx
  | cons y l ih =>
    rw [List.map_cons, List.nodup_cons] at hnodup
    rw [List.find?_cons]
    rcases List.mem_cons.mp hx with rfl | hmem
    · rw [beq_self_eq_true]
    · have hne : key y ≠ key x := by
        intro heq
        exact hnodup.1 (heq ▸ List.mem_map_of_mem hmem)
      rw [beq_false_of_ne hne]
      exact ih hnodup.2 hmem

/-- The members' drafts, as a record keeps them. -/
def namedDrafts (ms : List (String × Value)) : List (String × Draft) :=
  ms.map fun m => (m.1, m.2.draft)

theorem map_fst_namedDrafts (ms : List (String × Value)) :
    (namedDrafts ms).map Prod.fst = ms.map Prod.fst := by
  rw [namedDrafts, List.map_map]
  rfl

/-- Members that the fields of a record can be decoded from are assigned to them, in order. -/
theorem assignMembers_draftMembers {shape : Shape} (hshape : (shape.fields.map (·.name)).Nodup)
    {d : Nat} (hd : depth ≤ d) (ms : List (String × Value))
    (hms : ∀ m ∈ ms, ∃ f ∈ shape.fields, f.Reads depth m) (seen : List (String × Draft))
    (hnodup : (seen.map Prod.fst ++ ms.map Prod.fst).Nodup) :
    assignMembers shape d seen (draftMembers ms) =
      .ok (seen ++ namedDrafts ms) := by
  induction ms generalizing seen with
  | nil =>
    rw [draftMembers, assignMembers, namedDrafts, List.map_nil, List.append_nil]
  | cons m ms ih =>
    obtain ⟨k, v⟩ := m
    obtain ⟨f, hf, hname, -, hcheck⟩ := hms (k, v) List.mem_cons_self
    have hfind := find?_key Field.name hshape hf
    have hfresh : (seen.any fun s => s.1 == k) = false := by
      rw [List.any_eq_false]
      intro s hs heq
      have hk : s.1 = k := by simpa using heq
      exact (List.nodup_append.mp hnodup).2.2 s.1 (List.mem_map_of_mem hs) k List.mem_cons_self hk
    have hrest := ih (fun m hm => hms m (List.mem_cons_of_mem _ hm)) (seen ++ [(k, v.draft)])
      (by simpa using hnodup)
    rw [hname] at hfind
    simp only [draftMembers, assignMembers, checkText, bind, Except.bind, hfind, hfresh,
      hcheck d hd, hrest]
    simp [namedDrafts]

/-- Every member can be got from the record by its name. -/
def Record.Holds (r : Record) (depth : Nat) (ms : List (String × Value)) : Prop :=
  ∀ (β : Type) (decode : Decoder β) (name : String) (w : Value) (b : β), (name, w) ∈ ms →
    Reads decode depth w b → r.get? name decode = .ok (some b)

theorem Record.holds_namedDrafts {ms : List (String × Value)} (hnodup : (ms.map Prod.fst).Nodup)
    {e : Nat} (he : depth ≤ e) : (⟨namedDrafts ms, e⟩ : Record).Holds depth ms := by
  intro β decode name w b hmem hw
  have hdraft : (name, w.draft) ∈ namedDrafts ms := List.mem_map_of_mem hmem
  have hfind := find?_key Prod.fst ((map_fst_namedDrafts ms).symm ▸ hnodup) hdraft
  simp only [Record.get?, hfind, hw.decoded e he]
  rfl

theorem Record.Holds.get {r : Record} {ms : List (String × Value)} (h : r.Holds depth ms)
    {name : String} (hmem : (name, v) ∈ ms) (hv : Reads decode depth v a) :
    r.get name decode = .ok a := by
  simp only [Record.get, h α decode name v a hmem hv, bind, Except.bind]
  rfl

theorem names_of_fields {fields : List Field} {ms : List (String × Value)}
    (h : List.Forall₂ (Field.Reads depth) fields ms) :
    fields.map (·.name) = ms.map Prod.fst ∧ ∀ m ∈ ms, ∃ f ∈ fields, f.Reads depth m := by
  induction h with
  | nil => exact ⟨rfl, fun m hm => absurd hm List.not_mem_nil⟩
  | @cons f m fields ms hf _ ih =>
    refine ⟨by rw [List.map_cons, List.map_cons, hf.name, ih.1], ?_⟩
    intro n hn
    rcases List.mem_cons.mp hn with rfl | hn
    · exact ⟨f, List.mem_cons_self, hf⟩
    · obtain ⟨g, hg, hgn⟩ := ih.2 n hn
      exact ⟨g, List.mem_cons_of_mem _ hg, hgn⟩

/-- A record is read from an object with its fields in order. -/
theorem Shape.decode_object {shape : Shape} {ms : List (String × Value)}
    (hshape : (shape.fields.map (·.name)).Nodup)
    (hms : List.Forall₂ (Field.Reads depth) shape.fields ms) {d : Nat} (hd : depth + 1 ≤ d) :
    ∃ r : Record, shape.decode d (Value.object ms).draft = .ok r ∧ r.Holds depth ms := by
  obtain ⟨e, henter, he⟩ := enter_of_le hd
  obtain ⟨hnames, hmembers⟩ := names_of_fields hms
  have hnodup : (ms.map Prod.fst).Nodup := hnames ▸ hshape
  have hassign := assignMembers_draftMembers hshape he ms hmembers [] hnodup
  refine ⟨⟨namedDrafts ms, e⟩, ?_, Record.holds_namedDrafts hnodup he⟩
  simp only [Value.draft, Shape.decode, henter, hassign, bind, Except.bind]
  rfl

theorem floatFree_of_fields {fields : List Field} {ms : List (String × Value)}
    (h : List.Forall₂ (Field.Reads depth) fields ms) : (Value.object ms).FloatFree := by
  refine .object fun m hm => ?_
  obtain ⟨f, -, hf⟩ := (names_of_fields h).2 m hm
  exact hf.floatFree

/-- A decoder that reads a record and builds something from it. -/
theorem reads_record {shape : Shape} {ms : List (String × Value)} {build : Record → Except Fault α}
    (hshape : (shape.fields.map (·.name)).Nodup)
    (hms : List.Forall₂ (Field.Reads depth) shape.fields ms)
    (hbuild : ∀ r : Record, r.Holds depth ms → build r = .ok a) :
    Reads (fun d x => shape.decode d x >>= build) (depth + 1) (.object ms) a where
  floatFree := floatFree_of_fields hms
  decoded d hd := by
    obtain ⟨r, hr, hholds⟩ := shape.decode_object hshape hms hd
    simp only [hr, bind, Except.bind]
    exact hbuild r hholds

/-! ## Alternatives -/

theorem reads_alternative {names : List String}
    {decode : String → Option Draft → Nat → Except Fault α} {name : String} (hname : name ∈ names)
    (hfree : v.FloatFree) (h : ∀ d, depth ≤ d → decode name (some v.draft) d = .ok a) :
    Reads (alternative names decode) (depth + 1) (.object [(name, v)]) a where
  floatFree := by
    refine .object fun m hm => ?_
    rw [List.mem_singleton.mp hm]
    exact hfree
  decoded d hd := by
    obtain ⟨e, henter, he⟩ := enter_of_le hd
    simp only [Value.draft, draftMembers, alternative, henter, checkText, bind, Except.bind,
      if_pos hname, h e he]
    rfl

/-- An alternative that holds a record. -/
theorem reads_variant {names : List String}
    {decode : String → Option Draft → Nat → Except Fault α} {name : String} (hname : name ∈ names)
    (shape : Shape) {ms : List (String × Value)} {build : Record → Except Fault α}
    (hdecode : ∀ content d, decode name content d = fielded shape content d >>= build)
    (hshape : (shape.fields.map (·.name)).Nodup)
    (hms : List.Forall₂ (Field.Reads depth) shape.fields ms)
    (hbuild : ∀ r : Record, r.Holds depth ms → build r = .ok a) :
    Reads (alternative names decode) (depth + 2) (.object [(name, .object ms)]) a := by
  have hcontent := reads_record hshape hms hbuild
  refine reads_alternative hname hcontent.floatFree ?_
  intro d hd
  rw [hdecode]
  exact hcontent.decoded d hd

end BenchRig.Json
