import BenchRig.Json.Numeral

/-!
# Drafts of JSON values

A draft is what a text holds as far as it can be read. Reading never fails: a draft says in each
place what is wrong there, and ends at the first violation that makes it impossible to go on. Who
decodes a draft then meets mismatches and violations in the order of the text. A violation that only
matters to someone who wants the value, such as a numeral out of range, does not end the draft.
-/

namespace BenchRig.Json

/-- A JSON text as far as it can be read. -/
inductive Draft where
  | null
  | bool (b : Bool)
  | number (n : Except SyntaxFault Number)
  | string (s : Except SyntaxFault String)
  /-- Items, and what is wrong after the last of them. -/
  | array (items : List Draft) (flaw : Option Flaw)
  /-- Members, and what is wrong after the last of them. -/
  | object (members : List (Except SyntaxFault String × Draft)) (flaw : Option Flaw)
  /-- An object whose first key is not a string; what stands in its place. -/
  | illKeyed (first : Draft)
  /-- A violation that ends the draft; `starts` tells whether a value starts here at all. -/
  | broken (flaw : Flaw) (starts : Bool)
  /-- A string that ends the draft. -/
  | brokenString (flaw : Flaw)

open Decimal (digitValue?)

/-! ## Blanks, literals and strings -/

/-- Whether JSON text may hold `c` between two tokens. -/
def isBlank (c : Char) : Bool := c == ' ' || c == '\n' || c == '\t' || c == '\r'

/-- What follows the blanks at the front. -/
def skipBlanks (cs : List Char) : List Char := cs.dropWhile isBlank

/-- Removes the rest of a literal. -/
def expectLetters : List Char → List Char → Except SyntaxFault (List Char)
  | [], cs => .ok cs
  | _ :: _, [] => .error .endInValue
  | l :: ls, c :: cs => if c = l then expectLetters ls cs else .error .expectedIdent

/-- The value of a hexadecimal digit. -/
def hexValue? (c : Char) : Option Nat :=
  if '0' ≤ c ∧ c ≤ '9' then some (c.toNat - '0'.toNat)
  else if 'a' ≤ c ∧ c ≤ 'f' then some (c.toNat - 'a'.toNat + 10)
  else if 'A' ≤ c ∧ c ≤ 'F' then some (c.toNat - 'A'.toNat + 10)
  else none

/-- Whether the text has at least `n` bytes. -/
def hasBytes : Nat → List Char → Bool
  | 0, _ => true
  | _ + 1, [] => false
  | n + 1, c :: cs => hasBytes (n + 1 - c.utf8Size) cs

/-- The code unit of the four hexadecimal digits at the front. Four bytes must follow; if they do
and are no such digits, the escape is invalid. -/
def readUnit (cs : List Char) : Except SyntaxFault (Nat × List Char) :=
  if !hasBytes 4 cs then .error .endInString
  else
    match cs with
    | a :: b :: c :: d :: rest =>
      match hexValue? a, hexValue? b, hexValue? c, hexValue? d with
      | some a, some b, some c, some d => .ok (((a * 16 + b) * 16 + c) * 16 + d, rest)
      | _, _, _, _ => .error .invalidEscape
    | _ => .error .invalidEscape

/-- The character of a one-letter escape. -/
def shortEscape? : Char → Option Char
  | '"' => some '"'
  | '\\' => some '\\'
  | '/' => some '/'
  | 'b' => some '\x08'
  | 'f' => some '\x0c'
  | 'n' => some '\n'
  | 'r' => some '\r'
  | 't' => some '\t'
  | _ => none

/-- The character of an escape by code units, `\u` already read: one unit, or two that form a
surrogate pair. -/
def readUnicode (cs : List Char) : Except SyntaxFault (Char × List Char) := do
  let (high, rest) ← readUnit cs
  if 0xDC00 ≤ high ∧ high ≤ 0xDFFF then
    throw .loneSurrogate
  if high < 0xD800 ∨ 0xDBFF < high then
    return (Char.ofNat high, rest)
  match rest with
  | '\\' :: 'u' :: rest =>
    let (low, rest) ← readUnit rest
    if low < 0xDC00 ∨ 0xDFFF < low then
      throw .loneSurrogate
    return (Char.ofNat ((high - 0xD800) * 0x400 + (low - 0xDC00) + 0x10000), rest)
  | [] => throw .endInString
  | ['\\'] => throw .endInString
  | _ => throw .unfinishedSurrogate

/-- Reads a string after its opening quote; answers its text and what follows the closing quote. The
first argument bounds the number of characters read. -/
def readString : Nat → List Char → Except SyntaxFault (List Char × List Char)
  | 0, _ => .error .endInString
  | _ + 1, [] => .error .endInString
  | _ + 1, '"' :: rest => .ok ([], rest)
  | _ + 1, ['\\'] => .error .endInString
  | fuel + 1, '\\' :: 'u' :: rest => do
    let (c, rest) ← readUnicode rest
    let (cs, rest) ← readString fuel rest
    return (c :: cs, rest)
  | fuel + 1, '\\' :: e :: rest =>
    match shortEscape? e with
    | none => .error .invalidEscape
    | some c => do
      let (cs, rest) ← readString fuel rest
      return (c :: cs, rest)
  | fuel + 1, c :: rest =>
    if c < ' ' then .error .controlCharacter
    else do
      let (cs, rest) ← readString fuel rest
      return (c :: cs, rest)

/-- Skips a string after its opening quote. Surrogates need not be paired here. -/
def skipString : Nat → List Char → Except SyntaxFault (List Char)
  | 0, _ => .error .endInString
  | _ + 1, [] => .error .endInString
  | _ + 1, '"' :: rest => .ok rest
  | _ + 1, ['\\'] => .error .endInString
  | fuel + 1, '\\' :: 'u' :: rest => do
    let (_, rest) ← readUnit rest
    skipString fuel rest
  | fuel + 1, '\\' :: e :: rest =>
    if (shortEscape? e).isNone then .error .invalidEscape else skipString fuel rest
  | fuel + 1, c :: rest => if c < ' ' then .error .controlCharacter else skipString fuel rest

/-- A string after its opening quote: its text if it has one, and what follows it; a violation that
also stops someone who skips it ends the draft. -/
def scanString (cs : List Char) : Except Flaw (Except SyntaxFault String × List Char) :=
  match readString (cs.length + 1) cs with
  | .ok (s, rest) => .ok (.ok (String.ofList s), rest)
  | .error wanted =>
    match skipString (cs.length + 1) cs with
    | .ok rest => .ok (.error wanted, rest)
    | .error skipped => .error ⟨wanted, skipped⟩

/-! ## Values -/

/-- The draft of a literal, its first letter already read. -/
def scanLiteral (letters : List Char) (value : Draft) (cs : List Char) :
    Draft × Option (List Char) :=
  match expectLetters letters cs with
  | .ok rest => (value, some rest)
  | .error f => (.broken (.plain f) true, none)

/-- The draft of a numeral, its sign already read. -/
def scanNumber (negative : Bool) (cs : List Char) : Draft × Option (List Char) :=
  match readNumeral negative cs with
  | .ok (n, rest) => (.number n.value, some rest)
  | .error f => (.broken f true, none)

mutual

/-- Reads one value; answers its draft and, unless that ends the draft, what follows it. The first
argument bounds the number of steps. -/
def scanValue : Nat → List Char → Draft × Option (List Char)
  | 0, _ => (.broken (.plain .endInValue) false, none)
  | fuel + 1, cs =>
    match skipBlanks cs with
    | [] => (.broken (.plain .endInValue) false, none)
    | 'n' :: rest => scanLiteral ['u', 'l', 'l'] .null rest
    | 't' :: rest => scanLiteral ['r', 'u', 'e'] (.bool true) rest
    | 'f' :: rest => scanLiteral ['a', 'l', 's', 'e'] (.bool false) rest
    | '-' :: rest => scanNumber true rest
    | '"' :: rest =>
      match scanString rest with
      | .ok (s, rest) => (.string s, some rest)
      | .error f => (.brokenString f, none)
    | '[' :: rest =>
      match skipBlanks rest with
      | [] => (.array [] (some (.plain .endInList)), none)
      | ']' :: rest => (.array [] none, some rest)
      | rest =>
        let (items, flaw, rest) := scanItems fuel rest
        (.array items flaw, rest)
    | '{' :: rest =>
      match skipBlanks rest with
      | [] => (.object [] (some (.plain .endInObject)), none)
      | '}' :: rest => (.object [] none, some rest)
      | '"' :: rest =>
        let (members, flaw, rest) := scanMembers fuel rest
        (.object members flaw, rest)
      | rest => (.illKeyed (scanValue fuel rest).1, none)
    | c :: rest =>
      if (digitValue? c).isSome then scanNumber false (c :: rest)
      else (.broken (.plain .expectedValue) false, none)

/-- Reads the items of an array from the first of them on. -/
def scanItems : Nat → List Char → List Draft × Option Flaw × Option (List Char)
  | 0, _ => ([], some (.plain .endInList), none)
  | fuel + 1, cs =>
    match scanValue fuel cs with
    | (item, none) => ([item], none, none)
    | (item, some rest) =>
      match skipBlanks rest with
      | [] => ([item], some (.plain .endInList), none)
      | ']' :: rest => ([item], none, some rest)
      | ',' :: rest =>
        match skipBlanks rest with
        | [] => ([item], some (.plain .endInValue), none)
        | ']' :: _ => ([item], some ⟨.trailingComma, .expectedValue⟩, none)
        | rest =>
          let (items, flaw, rest) := scanItems fuel rest
          (item :: items, flaw, rest)
      | _ => ([item], some (.plain .expectedListCommaOrEnd), none)

/-- Reads the members of an object, the opening quote of the first key already read. -/
def scanMembers : Nat → List Char →
    List (Except SyntaxFault String × Draft) × Option Flaw × Option (List Char)
  | 0, _ => ([], some (.plain .endInObject), none)
  | fuel + 1, cs =>
    match scanString cs with
    | .error f => ([], some f, none)
    | .ok (key, rest) =>
      match skipBlanks rest with
      | [] => ([(key, .broken (.plain .endInObject) false)], none, none)
      | ':' :: rest =>
        match scanValue fuel rest with
        | (value, none) => ([(key, value)], none, none)
        | (value, some rest) =>
          match skipBlanks rest with
          | [] => ([(key, value)], some (.plain .endInObject), none)
          | '}' :: rest => ([(key, value)], none, some rest)
          | ',' :: rest =>
            match skipBlanks rest with
            | [] => ([(key, value)], some ⟨.endInValue, .endInObject⟩, none)
            | '"' :: rest =>
              let (members, flaw, rest) := scanMembers fuel rest
              ((key, value) :: members, flaw, rest)
            | '}' :: _ => ([(key, value)], some ⟨.trailingComma, .keyMustBeString⟩, none)
            | _ => ([(key, value)], some (.plain .keyMustBeString), none)
          | _ => ([(key, value)], some (.plain .expectedObjectCommaOrEnd), none)
      | _ => ([(key, .broken (.plain .expectedColon) false)], none, none)

end

/-- The draft of a text, and what follows the value unless the draft ends early. -/
def Draft.ofChars (cs : List Char) : Draft × Option (List Char) :=
  scanValue (2 * cs.length + 2) cs

end BenchRig.Json
