import BenchRig.Json.Draft

/-!
# Decoders

A decoder takes a draft apart in the order of its text and reports the first thing that is wrong:
a value of another type, an unknown name, a missing field, or the place where the text itself is
broken. Containers may be nested to a limited depth, except inside values that nobody asked for.
-/

namespace BenchRig.Json

/-- Decodes a draft in which at most the given number of containers may still be opened. -/
abbrev Decoder (α : Type) := Nat → Draft → Except Fault α

/-- How deep containers may be nested. -/
def depthLimit : Nat := 127

/-- Fails with a violation of the grammar. -/
def breach {α : Type} (f : SyntaxFault) : Except Fault α := .error (.grammar f)

/-- Fails with a value that does not describe what is asked for. -/
def reject {α : Type} (f : DataFault) : Except Fault α := .error (.data f)

/-- Opens a container: the depth that is left inside it. -/
def enter : Nat → Except Fault Nat
  | 0 => breach .tooDeep
  | depth + 1 => .ok depth

/-- Stops at a flaw, if there is one. -/
def checkFlaw : Option Flaw → Except Fault Unit
  | some f => breach f.wanted
  | none => .ok ()

/-- A text, or the violation in its place. -/
def checkText : Except SyntaxFault String → Except Fault String
  | .ok s => .ok s
  | .error f => breach f

namespace Draft

mutual

/-- Reads past a value that nobody asked for. -/
def skip : Draft → Except SyntaxFault Unit
  | .null | .bool _ | .number _ | .string _ => .ok ()
  | .array items flaw => do
    skipItems items
    match flaw with
    | some f => throw f.skipped
    | none => return ()
  | .object members flaw => do
    skipMembers members
    match flaw with
    | some f => throw f.skipped
    | none => return ()
  | .illKeyed _ => throw .keyMustBeString
  | .broken f _ => throw f.skipped
  | .brokenString f => throw f.skipped

/-- Reads past the items of an array. -/
def skipItems : List Draft → Except SyntaxFault Unit
  | [] => .ok ()
  | d :: ds => do
    d.skip
    skipItems ds

/-- Reads past the members of an object. -/
def skipMembers : List (Except SyntaxFault String × Draft) → Except SyntaxFault Unit
  | [] => .ok ()
  | (_, d) :: ms => do
    d.skip
    skipMembers ms

end

mutual

/-- The value of a draft. -/
def toValue (depth : Nat) : Draft → Except Fault Value
  | .null => .ok .null
  | .bool b => .ok (.bool b)
  | .number (.ok (.integer n)) => .ok (.integer n)
  | .number (.ok (.double x)) => .ok (.double x)
  | .number (.error f) => breach f
  | .string s => (checkText s).map .string
  | .array items flaw => do
    let values ← toValues (← enter depth) items
    checkFlaw flaw
    return .array values
  | .object members flaw => do
    let values ← toMembers (← enter depth) members
    checkFlaw flaw
    return .ofMembers values
  | .illKeyed _ => do
    let _ ← enter depth
    breach .keyMustBeString
  | .broken f _ => breach f.wanted
  | .brokenString f => breach f.wanted

/-- The values of an array's items. -/
def toValues (depth : Nat) : List Draft → Except Fault (List Value)
  | [] => .ok []
  | d :: ds => do
    let v ← toValue depth d
    return v :: (← toValues depth ds)

/-- The keys and values of an object's members. -/
def toMembers (depth : Nat) :
    List (Except SyntaxFault String × Draft) → Except Fault (List (String × Value))
  | [] => .ok []
  | (key, d) :: ms => do
    let key ← checkText key
    let v ← toValue depth d
    return (key, v) :: (← toMembers depth ms)

end

/-- The fault of finding this draft where something else is expected. -/
def mismatch (expected : String) : Draft → Fault
  | .null => .data (.wrongType .null expected)
  | .bool b => .data (.wrongType (.bool b) expected)
  | .number (.ok (.integer n)) => .data (.wrongType (.integer n.val) expected)
  | .number (.ok (.double x)) => .data (.wrongType (.double x) expected)
  | .number (.error f) => .grammar f
  | .string (.ok s) => .data (.wrongType (.string s) expected)
  | .string (.error f) => .grammar f
  | .array _ _ => .data (.wrongType .sequence expected)
  | .object _ _ | .illKeyed _ => .data (.wrongType .map expected)
  | .broken f _ => .grammar f.wanted
  | .brokenString f => .grammar f.wanted

/-- A natural number below `bound`. -/
def unsigned (bound : Nat) (expected : String) : Draft → Except Fault Nat
  | .number (.ok (.integer n)) =>
    if 0 ≤ n.val ∧ n.val < bound then .ok n.val.toNat
    else reject (.wrongValue (.integer n.val) expected)
  | d => .error (d.mismatch expected)

end Draft

/-! ## Plain decoders -/

/-- Any value. -/
def anyValue : Decoder Value := Draft.toValue

/-- A number of 16 bits. -/
def uint16 : Decoder UInt16 := fun _ d => return .ofNat (← d.unsigned UInt16.size "u16")

/-- A number of 32 bits. -/
def uint32 : Decoder UInt32 := fun _ d => return .ofNat (← d.unsigned UInt32.size "u32")

/-- A number of 64 bits. -/
def uint64 : Decoder UInt64 := fun _ d => return .ofNat (← d.unsigned UInt64.size "u64")

/-- A count, which fits into 64 bits. -/
def count : Decoder Nat := fun _ d => d.unsigned UInt64.size "usize"

/-- A double; an integer stands for the nearest one. -/
def double : Decoder Float := fun _ d =>
  match d with
  | .number (.ok (.double x)) => .ok x
  | .number (.ok (.integer n)) => .ok (Float.ofInt n.val)
  | d => .error (d.mismatch "f64")

/-- A truth value. -/
def boolean : Decoder Bool := fun _ d =>
  match d with
  | .bool b => .ok b
  | d => .error (d.mismatch "a boolean")

/-- A text of the described form. -/
def textOf (expected : String) : Decoder String := fun _ d =>
  match d with
  | .string s => checkText s
  | d => .error (d.mismatch expected)

/-- A text. -/
def text : Decoder String := textOf "a string"

/-- The `null` that stands for nothing. -/
def nothing : Decoder Unit := fun _ d =>
  match d with
  | .null => .ok ()
  | d => .error (d.mismatch "unit")

/-- A value that may be `null`. -/
def optional {α : Type} (decode : Decoder α) : Decoder (Option α) := fun depth d =>
  match d with
  | .null => .ok none
  | d => some <$> decode depth d

/-- A sequence of values. -/
def list {α : Type} (decode : Decoder α) : Decoder (List α) := fun depth d =>
  match d with
  | .array items flaw => do
    let depth ← enter depth
    let values ← items.mapM (decode depth)
    checkFlaw flaw
    return values
  | d => .error (d.mismatch "a sequence")

/-- A map from texts to any values, in the order of the text. -/
def members : Decoder (List (String × Value)) := fun depth d =>
  match d with
  | .object ms flaw => do
    let values ← Draft.toMembers (← enter depth) ms
    checkFlaw flaw
    return values
  | .illKeyed _ => do
    let _ ← enter depth
    breach .keyMustBeString
  | d => .error (d.mismatch "a map")

/-! ## Records -/

/-- A field of a record. -/
structure Field where
  /-- The field's name. -/
  name : String
  /-- Whether the field's value can be decoded. -/
  check : Decoder Unit
  /-- Whether a sequence may end before this field. -/
  omissible : Bool := false

/-- A field whose value is decoded by `decode`. -/
def Field.of {α : Type} (name : String) (decode : Decoder α) (omissible : Bool := false) : Field :=
  ⟨name, fun depth d => (fun _ => ()) <$> decode depth d, omissible⟩

/-- What a record is called when it is missed. -/
structure Shape where
  /-- The record's description. -/
  expected : String
  /-- Its description when a sequence is too short for it. -/
  counted : String
  /-- Its fields, in the order of a sequence. -/
  fields : List Field
  /-- Whether a name outside the fields is an error. -/
  closed : Bool := false

/-- A record with the given fields; other names are ignored. -/
def Shape.of (expected : String) (fields : List Field) : Shape where
  expected := expected
  counted := expected ++ " with " ++ Decimal.text fields.length
    ++ (if fields.length = 1 then " element" else " elements")
  fields := fields

/-- The drafts of a record's fields, and the depth left for them. -/
structure Record where
  /-- The fields that are there. -/
  drafts : List (String × Draft)
  /-- How many containers may be opened inside. -/
  depth : Nat

/-- What is wrong when a sequence goes on, or breaks off, behind its last field. -/
def afterFields (rest : List Draft) (flaw : Option Flaw) : Except Fault Unit :=
  match rest, flaw with
  | [], none => .ok ()
  | [], some f =>
    if f.wanted = .endInList ∨ f.wanted = .trailingComma then breach f.wanted
    else breach .trailingCharacters
  | _ :: _, _ => breach .trailingCharacters

/-- Assigns the items of a sequence to fields. -/
def assignItems (shape : Shape) (flaw : Option Flaw) (depth : Nat) :
    Nat → List Field → List Draft → Except Fault (List (String × Draft))
  | _, [], rest => do
    afterFields rest flaw
    return []
  | i, field :: fields, d :: ds => do
    field.check depth d
    return (field.name, d) :: (← assignItems shape flaw depth (i + 1) fields ds)
  | i, field :: fields, [] => do
    checkFlaw flaw
    if field.omissible then assignItems shape flaw depth (i + 1) fields []
    else reject (.wrongLength i shape.counted)

/-- Assigns the members of an object to fields; `seen` holds those already assigned. -/
def assignMembers (shape : Shape) (depth : Nat) (seen : List (String × Draft)) :
    List (Except SyntaxFault String × Draft) → Except Fault (List (String × Draft))
  | [] => .ok seen
  | (key, d) :: ms => do
    let key ← checkText key
    match shape.fields.find? fun f => f.name == key with
    | some field =>
      if seen.any fun s => s.1 == key then reject (.duplicateField key)
      else do
        field.check depth d
        assignMembers shape depth (seen ++ [(key, d)]) ms
    | none =>
      if shape.closed then reject (.unknownField key (shape.fields.map (·.name)))
      else
        match d.skip with
        | .ok () => assignMembers shape depth seen ms
        | .error f => breach f

/-- The fields of a record, given as an object or as a sequence. -/
def Shape.decode (shape : Shape) : Decoder Record := fun depth d =>
  match d with
  | .array items flaw => do
    let depth ← enter depth
    return ⟨← assignItems shape flaw depth 0 shape.fields items, depth⟩
  | .object ms flaw => do
    let depth ← enter depth
    let drafts ← assignMembers shape depth [] ms
    checkFlaw flaw
    return ⟨drafts, depth⟩
  | .illKeyed _ => do
    let _ ← enter depth
    breach .keyMustBeString
  | d => .error (d.mismatch shape.expected)

/-- The value of a field, if it is there. -/
def Record.get? {α : Type} (r : Record) (name : String) (decode : Decoder α) :
    Except Fault (Option α) :=
  match r.drafts.find? fun m => m.1 == name with
  | some (_, d) => some <$> decode r.depth d
  | none => .ok none

/-- The value of a field that has to be there. -/
def Record.get {α : Type} (r : Record) (name : String) (decode : Decoder α) : Except Fault α := do
  match ← r.get? name decode with
  | some a => return a
  | none => reject (.missingField name)

/-! ## Alternatives -/

/-- One of several named alternatives: the name alone, or an object whose only member has that name
and holds the content. -/
def alternative {α : Type} (names : List String)
    (decode : String → Option Draft → Nat → Except Fault α) : Decoder α := fun depth d =>
  match d with
  | .string s => do
    let name ← checkText s
    if name ∈ names then decode name none depth else reject (.unknownVariant name names)
  | .object [] none => do
    let _ ← enter depth
    breach .expectedValue
  | .object [] (some f) => do
    let _ ← enter depth
    breach (if f.wanted = .endInObject then .endInValue else f.wanted)
  | .object ((key, content) :: more) flaw => do
    let depth ← enter depth
    let name ← checkText key
    let a ← if name ∈ names then decode name (some content) depth
      else reject (.unknownVariant name names)
    match more, flaw with
    | [], none => return a
    | [], some f =>
      breach (if f.wanted = .endInObject then .endInObject else .expectedValue)
    | _ :: _, _ => breach .expectedValue
  | .illKeyed first => do
    let _ ← enter depth
    .error (first.mismatch "variant identifier")
  | .brokenString f => breach f.wanted
  | .broken f starts => breach (if starts then .expectedValue else f.wanted)
  | .null | .bool _ | .number _ | .array _ _ => breach .expectedValue

/-- The content of an alternative that holds a single value. -/
def single {α : Type} (decode : Decoder α) : Option Draft → Nat → Except Fault α
  | some d, depth => decode depth d
  | none, _ => reject (.wrongType .unitVariant "newtype variant")

/-- The content of an alternative that holds a record. -/
def fielded (shape : Shape) : Option Draft → Nat → Except Fault Record
  | some d, depth => shape.decode depth d
  | none, _ => reject (.wrongType .unitVariant "struct variant")

/-- The content of an alternative that holds nothing. -/
def bare : Option Draft → Nat → Except Fault Unit
  | some d, depth => nothing depth d
  | none, _ => .ok ()

/-! ## Texts -/

/-- Decodes a whole text; only blanks may follow the value. -/
def decodeText {α : Type} (decode : Decoder α) (s : String) : Except Fault α := do
  let (draft, rest) := Draft.ofChars s.toList
  let a ← decode depthLimit draft
  match rest with
  | some rest => if (skipBlanks rest).isEmpty then return a else breach .trailingCharacters
  | none => breach .trailingCharacters

/-- The value of a whole text. -/
def Value.ofText (s : String) : Except Fault Value := decodeText anyValue s

end BenchRig.Json
