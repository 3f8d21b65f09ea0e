import BenchRig.Url.Basic
import BenchRig.Url.Domain
import BenchRig.Url.Percent

/-!
# Hosts

A host in brackets is an address of eight pieces. Otherwise, with the schemes of the web, it is a
name or, if its last label is a number, an address of 32 bits; with all other schemes it is taken as
it is.
-/

namespace BenchRig.Url

open Decimal (digitValue?)

/-! ## Addresses of 32 bits -/

/-- The value of a digit in a base up to sixteen. -/
def digitIn? (base : Nat) (c : Char) : Option Nat :=
  let value :=
    if '0' ≤ c ∧ c ≤ '9' then c.toNat - '0'.toNat
    else if 'a' ≤ c ∧ c ≤ 'f' then c.toNat - 'a'.toNat + 10
    else if 'A' ≤ c ∧ c ≤ 'F' then c.toNat - 'A'.toNat + 10
    else 16
  if value < base then some value else none

/-- The number that digits of a base denote. -/
def numberIn? (base : Nat) (cs : List Char) : Option Nat :=
  cs.foldlM (fun n c => (digitIn? base c).map (base * n + ·)) 0

/-- A number as it may stand in an address: decimal, octal after a zero, hexadecimal after `0x`. -/
def addressNumber? : List Char → Option Nat
  | [] => none
  | '0' :: 'x' :: cs => numberIn? 16 cs
  | '0' :: 'X' :: cs => numberIn? 16 cs
  | '0' :: c :: cs => numberIn? 8 (c :: cs)
  | cs => numberIn? 10 cs

/-- The labels of a name. -/
def labels (cs : List Char) : List (List Char) := cs.splitOn '.'

/-- The labels of a name without an empty last one. -/
def significantLabels (cs : List Char) : List (List Char) :=
  let ls := labels cs
  if ls.getLast? = some [] then ls.dropLast else ls

/-- Whether the last label of a name is a number, so that the name must be an address. -/
def endsInNumber (cs : List Char) : Bool :=
  match (significantLabels cs).getLast? with
  | none => false
  | some last =>
    (!last.isEmpty && last.all fun c => (digitValue? c).isSome) || (addressNumber? last).isSome

/-- The address that numbers denote: all but the last are single bytes, and the last one fills the
bytes that are left. -/
def addressOf (numbers : List Nat) : Except Fault Nat :=
  match numbers.getLast? with
  | none => .error .invalidIpv4
  | some last =>
    let front := numbers.dropLast
    if 3 < front.length then .error .invalidIpv4
    else if front.any (255 < ·) then .error .invalidIpv4
    else if Nat.pow 256 (4 - front.length) ≤ last then .error .invalidIpv4
    else .ok (front.foldl (fun n b => 256 * n + b) 0 * Nat.pow 256 (4 - front.length) + last)

/-- Reads an address of 32 bits. -/
def readIpv4 (cs : List Char) : Except Fault Nat :=
  match (significantLabels cs).mapM addressNumber? with
  | some numbers => addressOf numbers
  | none => .error .invalidIpv4

/-! ## Addresses of eight pieces -/

/-- Up to four hexadecimal digits at the front: their number, their value, and what follows. -/
def spanHex : Nat → List Char → Nat × Nat × List Char
  | 0, cs => (0, 0, cs)
  | _ + 1, [] => (0, 0, [])
  | n + 1, c :: cs =>
    match digitIn? 16 c with
    | none => (0, 0, c :: cs)
    | some d =>
      let (count, value, rest) := spanHex n cs
      (count + 1, d * Nat.pow 16 count + value, rest)

/-- A decimal byte without superfluous zeros. -/
def byte? (cs : List Char) : Option Nat :=
  if cs.isEmpty ∨ (cs.head? = some '0' ∧ cs.length ≠ 1) then none
  else (numberIn? 10 cs).filter (· < 256)

/-- Four decimal bytes divided by points, as two pieces. -/
def dottedPieces? (cs : List Char) : Option (List Nat) :=
  match (labels cs).mapM byte? with
  | some [a, b, c, d] => some [256 * a + b, 256 * c + d]
  | _ => none

/-- Reads pieces up to the end. `gap` holds the pieces in front of `::` once it has been read, and
`pieces` those since then, in reverse. -/
def readPieces :
    Nat → Option (List Nat) → List Nat → List Char → Option (Option (List Nat) × List Nat)
  | 0, _, _, _ => none
  | _ + 1, gap, pieces, [] => some (gap, pieces)
  | fuel + 1, gap, pieces, ':' :: rest =>
    if gap.isSome then none else readPieces fuel (some pieces) [] rest
  | fuel + 1, gap, pieces, cs =>
    match spanHex 4 cs with
    | (_, value, []) => some (gap, value :: pieces)
    | (0, _, _) => none
    | (_, value, ':' :: rest) =>
      if rest.isEmpty then none else readPieces fuel gap (value :: pieces) rest
    | (_, _, '.' :: _) =>
      (dottedPieces? cs).map fun last => (gap, last.reverse ++ pieces)
    | _ => none

/-- Reads the inside of the brackets. A `::` stands for at least one piece of zero. -/
def readIpv6 (cs : List Char) : Except Fault (List Nat) :=
  let start :=
    match cs with
    | ':' :: ':' :: rest => readPieces (rest.length + 1) (some []) [] rest
    | ':' :: _ => none
    | [] => none
    | [_] => none
    | cs => readPieces (cs.length + 1) none [] cs
  match start with
  | some (none, pieces) =>
    if pieces.length = 8 then .ok pieces.reverse else .error .invalidIpv6
  | some (some front, pieces) =>
    let known := front.length + pieces.length
    if known < 8 then .ok (front.reverse ++ List.replicate (8 - known) 0 ++ pieces.reverse)
    else .error .invalidIpv6
  | none => .error .invalidIpv6

/-! ## Hosts -/

/-- Reads what stands between brackets, the opening one already read. -/
def readBracketed (cs : List Char) : Except Fault Host :=
  match cs.getLast? with
  | some ']' => (readIpv6 cs.dropLast).map .ipv6
  | _ => .error .invalidIpv6

/-- Reads a host of the schemes of the web. -/
def readWebHost (cs : List Char) : Except Fault Host :=
  match cs with
  | '[' :: inner => readBracketed inner
  | cs => do
    match domainOf (percentDecode (cs.flatMap String.utf8EncodeChar)) with
    | none => throw .invalidName
    | some [] => throw .emptyHost
    | some name => if endsInNumber name then .ipv4 <$> readIpv4 name else return .name name

/-- Whether a host of another scheme must not hold the character. -/
def isForbidden (c : Char) : Bool :=
  "\x00\t\n\r #/:<>?@[\\]^|".toList.contains c

/-- Reads a host of another scheme. -/
def readPlainHost (cs : List Char) : Except Fault Host :=
  match cs with
  | '[' :: inner => readBracketed inner
  | cs =>
    if cs.any isForbidden then .error .invalidHostCharacter
    else .ok (.name (percentEncode isControl cs))

end BenchRig.Url
