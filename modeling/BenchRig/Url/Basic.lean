import BenchRig.Decimal.Numeral

/-!
# Addresses

The parts of an absolute URL, and its text. Every part is held in the encoded form in which it is
written.
-/

namespace BenchRig.Url

/-- The host of a URL. -/
inductive Host where
  /-- A name, in lower case for the schemes of the web. -/
  | name (text : List Char)
  /-- An address of 32 bits. -/
  | ipv4 (address : Nat)
  /-- An address of eight pieces of 16 bits. -/
  | ipv6 (pieces : List Nat)
  deriving DecidableEq, Repr

/-- Why a text is not a URL. -/
inductive Fault where
  | emptyHost
  | invalidName
  | invalidPort
  | invalidIpv4
  | invalidIpv6
  | invalidHostCharacter
  | noScheme
  deriving DecidableEq, Repr

/-- What the fault says. -/
def Fault.message : Fault → String
  | emptyHost => "empty host"
  | invalidName => "invalid international domain name"
  | invalidPort => "invalid port number"
  | invalidIpv4 => "invalid IPv4 address"
  | invalidIpv6 => "invalid IPv6 address"
  | invalidHostCharacter => "invalid domain character"
  | noScheme => "relative URL without a base"

/-- The user in front of a host. -/
structure User where
  /-- The name. -/
  name : List Char
  /-- The password, if it is not empty. -/
  password : Option (List Char)
  deriving DecidableEq, Repr

/-- A URL. -/
structure Address where
  /-- The scheme, in lower case. -/
  scheme : List Char
  /-- Whether `//` follows the scheme. -/
  slashes : Bool
  /-- The user, if one is given. -/
  user : Option User
  /-- The host, unless it is empty. -/
  host : Option Host
  /-- The port, unless it is the usual one of the scheme. -/
  port : Option Nat
  /-- The path. -/
  path : List Char
  /-- What follows the question mark. -/
  query : Option (List Char)
  /-- What follows the number sign. -/
  fragment : Option (List Char)
  deriving DecidableEq, Repr

/-- The four bytes of an address of 32 bits, divided by points. -/
def ipv4Text (n : Nat) : List Char :=
  Decimal.numeral (n / 16777216) ++ '.' :: Decimal.numeral (n / 65536 % 256)
    ++ '.' :: Decimal.numeral (n / 256 % 256) ++ '.' :: Decimal.numeral (n % 256)

/-- How many zeros a list starts with. -/
def leadingZeros : List Nat → Nat
  | 0 :: rest => leadingZeros rest + 1
  | _ => 0

/-- The first longest run of zeros in the list, as its start and its length; `start` counts the
elements in front of the list. -/
def longestZeros (start : Nat) : List Nat → Nat × Nat
  | [] => (start, 0)
  | p :: ps =>
    let here := leadingZeros (p :: ps)
    let later := longestZeros (start + 1) ps
    if later.2 ≤ here then (start, here) else later

/-- The hexadecimal pieces, divided by colons. -/
def piecesText (pieces : List Nat) : List Char :=
  [':'].intercalate (pieces.map (Nat.toDigits 16))

/-- An address of eight pieces in brackets; the first longest run of at least two zeros is left
out. -/
def ipv6Text (pieces : List Nat) : List Char :=
  let (start, length) := longestZeros 0 pieces
  let inner :=
    if length < 2 then piecesText pieces
    else piecesText (pieces.take start) ++ [':', ':'] ++ piecesText (pieces.drop (start + length))
  '[' :: inner ++ [']']

/-- The text of a host. -/
def Host.text : Host → List Char
  | .name s => s
  | .ipv4 n => ipv4Text n
  | .ipv6 pieces => ipv6Text pieces

namespace Address

/-- The host's text, empty if there is none. -/
def hostText (a : Address) : List Char :=
  match a.host with
  | some h => h.text
  | none => []

/-- The user's text with its at sign. -/
def userText (a : Address) : List Char :=
  match a.user with
  | none => []
  | some ⟨name, none⟩ => name ++ ['@']
  | some ⟨name, some password⟩ => name ++ ':' :: password ++ ['@']

/-- The text of the address. A path that starts with two slashes must not be taken for a host. -/
def text (a : Address) : String :=
  let authority :=
    if a.slashes then
      '/' :: '/' :: a.userText ++ a.hostText
        ++ (match a.port with | some p => ':' :: Decimal.numeral p | none => [])
    else if ['/', '/'].isPrefixOf a.path then ['/', '.'] else []
  String.ofList (a.scheme ++ ':' :: authority ++ a.path
    ++ (match a.query with | some q => '?' :: q | none => [])
    ++ (match a.fragment with | some f => '#' :: f | none => []))

/-- Where the address leads: host and path. -/
def destination (a : Address) : String := String.ofList (a.hostText ++ a.path)

end Address

end BenchRig.Url
