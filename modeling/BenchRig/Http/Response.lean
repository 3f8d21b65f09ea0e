import BenchRig.Url.Host

/-!
# Responses

The answer to a request as it arrives on a connection that the server then closes: a status line,
headers, an empty line, and a body. The headers decide where the body ends: with the last chunk,
after a given number of bytes, or with the connection.
-/

namespace BenchRig.Http

open Decimal (digitValue?)

/-- Bytes of an answer, each as the character with its number. -/
abbrev Octets := List Char

/-- What a client learns from an answer. -/
structure Response where
  /-- The status. -/
  status : Nat
  /-- Where else to ask, if the answer says so. -/
  location : Option Octets
  /-- Whether the whole body has arrived. -/
  complete : Bool
  deriving DecidableEq, Repr

/-! ## Lines -/

/-- The first line without its end, and what follows it. -/
def readLine : Octets → Option (Octets × Octets)
  | [] => none
  | '\n' :: rest => some ([], rest)
  | '\r' :: '\n' :: rest => some ([], rest)
  | c :: rest => (readLine rest).map fun (line, more) => (c :: line, more)

/-- What follows a line is shorter than the text. -/
theorem readLine_length {cs line rest : Octets} (h : readLine cs = some (line, rest)) :
    rest.length < cs.length := by
  fun_induction readLine cs generalizing line with
  | case1 => simp at h
  | case2 =>
    simp only [Option.some.injEq, Prod.mk.injEq] at h
    obtain ⟨-, rfl⟩ := h
    simp only [List.length_cons]
    omega
  | case3 =>
    simp only [Option.some.injEq, Prod.mk.injEq] at h
    obtain ⟨-, rfl⟩ := h
    simp only [List.length_cons]
    omega
  | case4 c more _ _ ih =>
    obtain ⟨⟨l, r⟩, hl, hr⟩ := Option.map_eq_some_iff.1 h
    simp only [Prod.mk.injEq] at hr
    have := ih (hr.2 ▸ hl)
    simp only [List.length_cons]
    omega

/-- Whether a character may stand in the value of a header. -/
def isValueChar (c : Char) : Bool := c == '\t' || (' ' ≤ c && c ≠ '\x7f')

/-- The version, 0 or 1, and the status of a status line. -/
def readStatus (line : Octets) : Option (Nat × Nat) :=
  match line with
  | 'H' :: 'T' :: 'T' :: 'P' :: '/' :: '1' :: '.' :: v :: ' ' :: a :: b :: c :: rest => do
    let a ← digitValue? a
    let b ← digitValue? b
    let c ← digitValue? c
    if (v = '0' ∨ v = '1') ∧ a ≠ 0 ∧ (rest.isEmpty ∨ rest.head? = some ' ')
        ∧ rest.all isValueChar then
      return (if v = '0' then 0 else 1, 100 * a + 10 * b + c)
    else none
  | _ => none

/-- Whether a character may stand in the name of a header. -/
def isNameChar (c : Char) : Bool :=
  c.isAlphanum || c == '\x60' || "!#$%&'*+-.^_|~".toList.contains c

/-- Removes blanks at both ends. -/
def trim (cs : Octets) : Octets :=
  let blank (c : Char) : Bool := c == ' ' || c == '\t'
  ((cs.dropWhile blank).reverse.dropWhile blank).reverse

/-- A header: its name in lower case, and its value. -/
def readHeader (line : Octets) : Option (Octets × Octets) :=
  let name := line.takeWhile (· ≠ ':')
  match line.dropWhile (· ≠ ':') with
  | _ :: value =>
    if !name.isEmpty && name.all isNameChar && value.all isValueChar then
      some (name.map Char.toLower, trim value)
    else none
  | [] => none

/-- The headers up to the empty line, and what follows that. -/
def readHeaders (cs : Octets) : Option (List (Octets × Octets) × Octets) :=
  match h : readLine cs with
  | none => none
  | some ([], rest) => some ([], rest)
  | some (line, rest) => do
    have := readLine_length h
    let header ← readHeader line
    let (headers, body) ← readHeaders rest
    return (header :: headers, body)
termination_by cs.length

/-- The values under a name, in order. -/
def valuesOf (headers : List (Octets × Octets)) (name : String) : List Octets :=
  (headers.filter fun h => h.1 == name.toList).map (·.2)

/-! ## Bodies -/

/-- The size of a chunk: hexadecimal digits, blanks, and anything behind a semicolon. -/
def chunkSize? (line : Octets) : Option Nat :=
  let digits := line.takeWhile fun c => (Url.digitIn? 16 c).isSome
  let rest := (line.drop digits.length).dropWhile fun c => c == ' ' || c == '\t'
  if digits.isEmpty ∨ ¬ rest.head?.all (· = ';') then none else Url.numberIn? 16 digits

/-- The first line of a chunk without its end, which is a carriage return with a line feed, and what
follows it. -/
def readChunkLine : Octets → Option (Octets × Octets)
  | '\r' :: '\n' :: rest => some ([], rest)
  | c :: rest =>
    if c = '\r' ∨ c = '\n' then none
    else (readChunkLine rest).map fun (line, more) => (c :: line, more)
  | [] => none

/-- The most headers of an answer. -/
def maxHeaders : Nat := 100

/-- Whether at most `left` headers and then an empty line arrive behind the last chunk. -/
def trailersArrive : Nat → Octets → Bool
  | 0, cs => (readChunkLine cs).any (·.1.isEmpty)
  | left + 1, cs =>
    match readChunkLine cs with
    | none => false
    | some ([], _) => true
    | some (line, rest) => (readHeader line).isSome && trailersArrive left rest

/-- Whether chunks arrive up to the last one, which is empty. -/
def chunksComplete : Nat → Octets → Bool
  | 0, _ => false
  | fuel + 1, cs =>
    match readChunkLine cs with
    | none => false
    | some (line, rest) =>
      match chunkSize? line with
      | none => false
      | some 0 => trailersArrive maxHeaders rest
      | some n =>
        match rest.drop n with
        | '\r' :: '\n' :: more => n ≤ rest.length && chunksComplete fuel more
        | _ => false

/-- Whether a status never comes with a body. -/
def hasNoBody (status : Nat) : Bool := status < 200 || status == 204 || status == 304

/-- How the end of a body is found. -/
inductive Framing where
  /-- There is no body. -/
  | absent
  /-- It ends with an empty chunk. -/
  | chunked
  /-- It has a given number of bytes. -/
  | counted (length : Nat)
  /-- It ends with the connection. -/
  | open
  deriving DecidableEq, Repr

/-- The most bytes of a body. -/
def maxCount : Nat := 18446744073709551613

/-- The number of bytes that all values agree on. -/
def agreedCount? (values : List Octets) : Option Nat :=
  let counts := values.flatMap (·.splitOn ',') |>.map trim
  match counts with
  | [] => none
  | first :: _ =>
    let count := Decimal.denoted first
    let isCount (ds : Octets) : Bool :=
      !ds.isEmpty && ds.all (fun c => (digitValue? c).isSome) && Decimal.denoted ds == count
    if counts.all isCount && count ≤ maxCount then some count else none

/-- Whether a list of codings ends with that of chunks. -/
def endsChunked (codings : Octets) : Bool :=
  ((codings.splitOn ',').getLast?.map fun c => (trim c).map Char.toLower)
    == some "chunked".toList

/-- How the end of a body is found by version, status and headers, unless they contradict
themselves. -/
def framing? (version status : Nat) (headers : List (Octets × Octets)) : Option Framing :=
  if hasNoBody status then some .absent
  else
    match (valuesOf headers "transfer-encoding").getLast?, valuesOf headers "content-length" with
    | some codings, _ =>
      if version = 0 then none else some (if endsChunked codings then .chunked else .open)
    | none, [] => some .open
    | none, lengths => (agreedCount? lengths).map .counted

/-- Whether a body has arrived as a whole. -/
def Framing.isComplete (body : Octets) : Framing → Bool
  | absent | .open => true
  | chunked => chunksComplete body.length body
  | counted length => length ≤ body.length

/-- What follows the empty lines in front of a text. -/
def dropEmptyLines : Octets → Octets
  | '\n' :: rest => dropEmptyLines rest
  | '\r' :: '\n' :: rest => dropEmptyLines rest
  | cs => cs

/-- Reads an answer; `none` if it breaks off before the body or is none at all. Provisional answers
in front of the final one are skipped. -/
def Response.read : Nat → Octets → Option Response
  | 0, _ => none
  | fuel + 1, cs => do
    let (line, rest) ← readLine (dropEmptyLines cs)
    let (version, status) ← readStatus line
    let (headers, body) ← readHeaders rest
    guard (headers.length ≤ maxHeaders)
    if status < 200 ∧ status ≠ 101 then Response.read fuel body
    else
      let framing ← framing? version status headers
      return ⟨status, (valuesOf headers "location").head?, framing.isComplete body⟩

/-- Reads an answer as it has arrived. -/
def Response.ofOctets (cs : Octets) : Option Response := Response.read (cs.length + 1) cs

end BenchRig.Http
