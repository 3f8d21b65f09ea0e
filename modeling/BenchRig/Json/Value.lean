/-!
# JSON values

The values that JSON text denotes. Integers are those that fit into 64 bits, signed or unsigned; a
larger one is kept as a double. Members of an object keep the order they are given in.
-/

namespace BenchRig.Json

/-- Whether an integer fits into 64 bits, signed or unsigned. -/
def isWord (n : Int) : Bool := -9223372036854775808 ≤ n && n < 18446744073709551616

/-- An integer that fits into 64 bits, signed or unsigned. -/
abbrev Integer := { n : Int // isWord n }

/-- A JSON value. -/
inductive Value where
  | null
  | bool (b : Bool)
  | integer (n : Integer)
  | double (x : Float)
  | string (s : String)
  | array (items : List Value)
  | object (members : List (String × Value))
  deriving Inhabited

namespace Value

/-- An integer, as a double if it does not fit into 64 bits. -/
def ofInt (n : Int) : Value :=
  if h : isWord n then .integer ⟨n, h⟩ else .double (Float.ofInt n)

/-- A natural number, as a double if it does not fit into 64 bits. -/
def ofNat (n : Nat) : Value := ofInt n

/-- A double; what is not finite has no numeral and is `null`. -/
def ofFloat (x : Float) : Value := if x.isFinite then .double x else .null

/-- A list of texts. -/
def ofStrings (texts : List String) : Value := .array (texts.map .string)

/-- A text, or `null`. -/
def ofString? : Option String → Value
  | some s => .string s
  | none => .null

/-- The value of an object's member. -/
def get? (v : Value) (key : String) : Option Value :=
  match v with
  | .object members => (members.find? fun m => m.1 == key).map (·.2)
  | _ => none

end Value

/-- Puts a member into a list sorted by keys, replacing the one of the same key. -/
def insertMember (key : String) (value : Value) : List (String × Value) → List (String × Value)
  | [] => [(key, value)]
  | (k, v) :: rest =>
    if key < k then (key, value) :: (k, v) :: rest
    else if key = k then (key, value) :: rest
    else (k, v) :: insertMember key value rest

/-- An object of the given members, sorted by keys; of equal keys the last one counts. -/
def Value.ofMembers (members : List (String × Value)) : Value :=
  .object (members.foldl (fun sorted m => insertMember m.1 m.2 sorted) [])

end BenchRig.Json
