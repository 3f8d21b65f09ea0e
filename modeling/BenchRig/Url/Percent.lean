import BenchRig.Text.Utf8

/-!
# Percent encoding

A byte is written as `%` and two hexadecimal digits. Which ASCII characters are encoded depends on
the part of the URL; all other characters always are.
-/

namespace BenchRig.Url

/-- Control characters and what is not ASCII. -/
def isControl (c : Char) : Bool := c < ' ' || '\x7e' < c

/-- What is encoded in a fragment. -/
def inFragment (c : Char) : Bool :=
  isControl c || c == ' ' || c == '"' || c == '<' || c == '>' || c == '`'

/-- What is encoded in a path. -/
def inPath (c : Char) : Bool :=
  inFragment c || c == '#' || c == '?' || c == '\x7b' || c == '\x7d'

/-- What is encoded in a user's name and password. -/
def inUser (c : Char) : Bool :=
  inPath c || c == '/' || c == ':' || c == ';' || c == '=' || c == '@' || c == '[' || c == '\\'
    || c == ']' || c == '^' || c == '|'

/-- What is encoded in a query. -/
def inQuery (c : Char) : Bool :=
  isControl c || c == ' ' || c == '"' || c == '#' || c == '<' || c == '>'

/-- What is encoded in a query of the schemes of the web. -/
def inSpecialQuery (c : Char) : Bool := inQuery c || c == '\''

/-- An upper-case hexadecimal digit; `d` is below sixteen. -/
def upperHexDigit (d : Nat) : Char :=
  if d < 10 then Char.ofNat ('0'.toNat + d) else Char.ofNat ('A'.toNat + d - 10)

/-- A byte as a percent sign and two digits. -/
def percentByte (b : UInt8) : List Char :=
  ['%', upperHexDigit (b.toNat / 16), upperHexDigit (b.toNat % 16)]

/-- Encodes the characters that `escaped` names. -/
def percentEncode (escaped : Char → Bool) (cs : List Char) : List Char :=
  cs.flatMap fun c => if escaped c then (String.utf8EncodeChar c).flatMap percentByte else [c]

/-- The value of a byte that is a hexadecimal digit. -/
def hexByte? (b : UInt8) : Option UInt8 :=
  if 0x30 ≤ b && b ≤ 0x39 then some (b - 0x30)
  else if 0x41 ≤ b && b ≤ 0x46 then some (b - 0x41 + 10)
  else if 0x61 ≤ b && b ≤ 0x66 then some (b - 0x61 + 10)
  else none

/-- Replaces every percent sign with two hexadecimal digits by the byte they denote. -/
def percentDecode : List UInt8 → List UInt8
  | 0x25 :: a :: b :: rest =>
    match hexByte? a, hexByte? b with
    | some a, some b => (a * 16 + b) :: percentDecode rest
    | _, _ => 0x25 :: percentDecode (a :: b :: rest)
  | b :: rest => b :: percentDecode rest
  | [] => []

end BenchRig.Url
