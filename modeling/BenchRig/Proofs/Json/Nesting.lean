import BenchRig.Proofs.Json.Reads

/-!
# Values that are read as they are

A reader opens containers up to a limited depth. A value that keeps its members in order is read as
itself if its containers are not nested deeper than that, and otherwise not at all.
-/

namespace BenchRig.Json

mutual

/-- How deep containers are nested in a value. -/
def Value.nesting : Value → Nat
  | .null | .bool _ | .integer _ | .double _ | .string _ => 0
  | .array items => nestingItems items + 1
  | .object members => nestingMembers members + 1

/-- How deep containers are nested in the items of an array. -/
def nestingItems : List Value → Nat
  | [] => 0
  | v :: vs => max v.nesting (nestingItems vs)

/-- How deep containers are nested in the members of an object. -/
def nestingMembers : List (String × Value) → Nat
  | [] => 0
  | (_, v) :: ms => max v.nesting (nestingMembers ms)

end

/-- A value whose objects keep their members sorted by keys, each key once. -/
inductive Value.Ordered : Value → Prop where
  | null : Ordered .null
  | bool (b : Bool) : Ordered (.bool b)
  | integer (n : Integer) : Ordered (.integer n)
  | double (x : Float) : Ordered (.double x)
  | string (s : String) : Ordered (.string s)
  | array {items : List Value} (h : ∀ v ∈ items, Ordered v) : Ordered (.array items)
  | object {members : List (String × Value)} (hkeys : members.Pairwise fun a b => a.1 < b.1)
    (h : ∀ m ∈ members, Ordered m.2) : Ordered (.object members)

theorem nestingMembers_le_iff {ms : List (String × Value)} {depth : Nat} :
    nestingMembers ms ≤ depth ↔ ∀ m ∈ ms, m.2.nesting ≤ depth := by
  induction ms with
  | nil => simp [nestingMembers]
  | cons m ms ih =>
    rw [nestingMembers, Nat.max_le, ih, List.forall_mem_cons]

/-! ## Members in order -/

/-- A member whose key comes behind all others is put at the end. -/
theorem insertMember_of_lt {key : String} {ms : List (String × Value)} (value : Value)
    (h : ∀ m ∈ ms, m.1 < key) : insertMember key value ms = ms ++ [(key, value)] := by
  induction ms with
  | nil => rfl
  | cons m ms ih =>
    obtain ⟨k, v⟩ := m
    obtain ⟨hk, hms⟩ := List.forall_mem_cons.mp h
    have hnot : ¬ key < k := String.lt_asymm hk
    have hne : key ≠ k := by
      rintro rfl
      exact String.lt_irrefl _ hk
    rw [insertMember, if_neg hnot, if_neg hne, ih hms]
    rfl

theorem foldl_insertMember {ms sorted : List (String × Value)}
    (h : (sorted ++ ms).Pairwise fun a b => a.1 < b.1) :
    ms.foldl (fun sorted m => insertMember m.1 m.2 sorted) sorted = sorted ++ ms := by
  induction ms generalizing sorted with
  | nil => rw [List.foldl_nil, List.append_nil]
  | cons m ms ih =>
    have hlt : ∀ n ∈ sorted, n.1 < m.1 := by
      intro n hn
      exact (List.pairwise_append.mp h).2.2 n hn m List.mem_cons_self
    rw [List.foldl_cons, insertMember_of_lt m.2 hlt, ih (by simpa using h), List.append_assoc]
    rfl

/-- Members that are in order already stay as they are. -/
theorem ofMembers_of_pairwise {ms : List (String × Value)}
    (h : ms.Pairwise fun a b => a.1 < b.1) : Value.ofMembers ms = .object ms := by
  rw [Value.ofMembers, foldl_insertMember (by simpa using h), List.nil_append]

/-! ## Reading -/

/-- The value is read from its draft, or it is nested too deep. -/
def Value.ReadsBack (v : Value) : Prop :=
  ∀ depth, v.draft.toValue depth = if v.nesting ≤ depth then .ok v else breach .tooDeep

/-- Two parts, one read after the other, are both read if neither is nested too deep. -/
theorem bind_limited {α β γ : Type} (a : α) (b : β) (build : α → β → Except Fault γ)
    (m n depth : Nat) :
    ((if m ≤ depth then .ok a else breach .tooDeep) >>= fun x =>
        (if n ≤ depth then .ok b else breach .tooDeep) >>= build x) =
      if max m n ≤ depth then build a b else breach .tooDeep := by
  by_cases hm : m ≤ depth
  · by_cases hn : n ≤ depth
    · rw [if_pos hm, if_pos hn, if_pos (Nat.max_le.mpr ⟨hm, hn⟩)]
      rfl
    · rw [if_pos hm, if_neg hn, if_neg fun h => hn (Nat.max_le.mp h).2]
      rfl
  · rw [if_neg hm, if_neg fun h => hm (Nat.max_le.mp h).1]
    rfl

theorem toValues_draftItems {vs : List Value} (h : ∀ v ∈ vs, v.ReadsBack) (depth : Nat) :
    Draft.toValues depth (draftItems vs) =
      if nestingItems vs ≤ depth then .ok vs else breach .tooDeep := by
  induction vs with
  | nil => rfl
  | cons v vs ih =>
    obtain ⟨hv, hvs⟩ := List.forall_mem_cons.mp h
    rw [draftItems, Draft.toValues, hv depth, ih hvs, nestingItems]
    exact bind_limited v vs (fun v vs => .ok (v :: vs)) _ _ depth

theorem toMembers_draftMembers {ms : List (String × Value)} (h : ∀ m ∈ ms, m.2.ReadsBack)
    (depth : Nat) :
    Draft.toMembers depth (draftMembers ms) =
      if nestingMembers ms ≤ depth then .ok ms else breach .tooDeep := by
  induction ms with
  | nil => rfl
  | cons m ms ih =>
    obtain ⟨k, v⟩ := m
    obtain ⟨hv, hms⟩ := List.forall_mem_cons.mp h
    rw [draftMembers, Draft.toMembers, checkText, hv depth, ih hms, nestingMembers]
    exact bind_limited v ms (fun v ms => .ok ((k, v) :: ms)) _ _ depth

/-- A container takes one of the containers that may be opened, its content the others. -/
theorem bind_enter {α : Type} (a : α) (n depth : Nat) {read : Nat → Except Fault α}
    (h : ∀ d, read d = if n ≤ d then .ok a else breach .tooDeep) :
    (enter depth >>= read) = if n + 1 ≤ depth then .ok a else breach .tooDeep := by
  cases depth with
  | zero => rfl
  | succ depth =>
    have henter : (enter (depth + 1) >>= read) = read depth := rfl
    rw [henter, h depth]
    simp only [Nat.add_le_add_iff_right]

/-- The members of an object, at a depth that counts the object itself. -/
theorem members_draft {ms : List (String × Value)} (h : ∀ m ∈ ms, m.2.ReadsBack) (depth : Nat) :
    members depth (Value.object ms).draft =
      if (Value.object ms).nesting ≤ depth then .ok ms else breach .tooDeep := by
  refine bind_enter ms (nestingMembers ms) depth fun d => ?_
  rw [toMembers_draftMembers h d]
  split_ifs <;> rfl

theorem reads_members {ms : List (String × Value)} (hfree : ∀ m ∈ ms, m.2.FloatFree)
    (h : ∀ m ∈ ms, m.2.ReadsBack) :
    Reads members (Value.object ms).nesting (.object ms) ms where
  floatFree := .object hfree
  decoded d hd := by
    rw [members_draft h d, if_pos hd]

theorem Reads.mono {α : Type} {decode : Decoder α} {depth depth' : Nat} {v : Value} {a : α}
    (h : Reads decode depth v a) (hle : depth ≤ depth') : Reads decode depth' v a where
  floatFree := h.floatFree
  decoded d hd := h.decoded d (Nat.le_trans hle hd)

theorem readsBack_array {items : List Value} (h : ∀ v ∈ items, v.ReadsBack) :
    (Value.array items).ReadsBack := by
  intro depth
  rw [Value.draft, Draft.toValue, Value.nesting]
  refine bind_enter _ (nestingItems items) depth fun d => ?_
  rw [toValues_draftItems h d]
  split_ifs <;> rfl

theorem readsBack_object {ms : List (String × Value)}
    (hkeys : ms.Pairwise fun a b => a.1 < b.1) (h : ∀ m ∈ ms, m.2.ReadsBack) :
    (Value.object ms).ReadsBack := by
  intro depth
  rw [Value.draft, Draft.toValue, Value.nesting]
  refine bind_enter _ (nestingMembers ms) depth fun d => ?_
  rw [toMembers_draftMembers h d]
  split_ifs
  · exact congrArg Except.ok (ofMembers_of_pairwise hkeys)
  · rfl

/-- A value without doubles that keeps its members in order is read as itself, unless its
containers are nested too deep. -/
theorem Value.FloatFree.readsBack {v : Value} (hfree : v.FloatFree) (hord : v.Ordered) :
    v.ReadsBack := by
  induction hfree with
  | null => exact fun _ => rfl
  | bool b => exact fun _ => rfl
  | integer n => exact fun _ => rfl
  | string s => exact fun _ => rfl
  | array _ ih =>
    cases hord with
    | array hitems => exact readsBack_array fun v hv => ih v hv (hitems v hv)
  | object _ ih =>
    cases hord with
    | object hkeys hmembers =>
      exact readsBack_object hkeys fun m hm => ih m hm (hmembers m hm)

/-! ## Records -/

theorem draftMembers_append (ms ns : List (String × Value)) :
    draftMembers (ms ++ ns) = draftMembers ms ++ draftMembers ns := by
  induction ms with
  | nil => rfl
  | cons m ms ih => rw [List.cons_append, draftMembers, draftMembers, ih, List.cons_append]

theorem assignMembers_append (shape : Shape) (d : Nat)
    (ms ns : List (Except SyntaxFault String × Draft)) (seen : List (String × Draft)) :
    assignMembers shape d seen (ms ++ ns) =
      assignMembers shape d seen ms >>= fun seen => assignMembers shape d seen ns := by
  induction ms generalizing seen with
  | nil => rfl
  | cons m ms ih =>
    obtain ⟨key, x⟩ := m
    rw [List.cons_append, assignMembers, assignMembers]
    cases checkText key with
    | error f => rfl
    | ok key =>
      simp only [bind, Except.bind]
      cases shape.fields.find? fun f => f.name == key with
      | none =>
        simp only
        split_ifs
        · rfl
        · cases x.skip with
          | error f => rfl
          | ok _ => exact ih seen
      | some field =>
        simp only
        split_ifs
        · rfl
        · cases field.check d x with
          | error f => rfl
          | ok _ => exact ih (seen ++ [(key, x)])

/-- A record is not read if one of its members is not, whatever follows this member. -/
theorem Shape.decode_object_error {shape : Shape} (hshape : (shape.fields.map (·.name)).Nodup)
    {front back : List (String × Value)} {m : String × Value} {field : Field} {f : Fault}
    {depth d : Nat} (hfront : ∀ x ∈ front, ∃ g ∈ shape.fields, g.Reads depth x)
    (hnodup : ((front ++ [m]).map Prod.fst).Nodup) (hfield : field ∈ shape.fields)
    (hname : field.name = m.1) (hd : depth ≤ d) (hcheck : field.check d m.2.draft = .error f) :
    shape.decode (d + 1) (Value.object (front ++ m :: back)).draft = .error f := by
  obtain ⟨k, v⟩ := m
  rw [List.map_append, List.nodup_append] at hnodup
  obtain ⟨hfrontKeys, -, hfresh⟩ := hnodup
  have hassign := assignMembers_draftMembers hshape hd front hfront [] hfrontKeys
  have hfind := find?_key Field.name hshape hfield
  have hseen : ((namedDrafts front).any fun s => s.1 == k) = false := by
    rw [List.any_eq_false]
    intro s hs heq
    have hkey : s.1 ∈ front.map Prod.fst := by
      rw [← map_fst_namedDrafts]
      exact List.mem_map_of_mem hs
    exact hfresh s.1 hkey k (by simp) (by simpa using heq)
  rw [hname] at hfind
  simp only [Value.draft, draftMembers_append, draftMembers, Shape.decode, enter,
    assignMembers_append, hassign, List.nil_append, assignMembers, checkText, hfind, hseen, hcheck,
    bind, Except.bind, Bool.false_eq_true, if_false]

end BenchRig.Json
