import BenchRig.Url.Request

/-!
# References

A reference is read where an address is already known: what it leaves out is taken from there. It
keeps to a narrow grammar, in which every character that divides nothing is a letter, a digit, one
of a few signs, or encoded by its bytes; a text that does not is no reference.
-/

namespace BenchRig.Url

/-- The parts of a reference, as they are written. -/
structure Reference where
  /-- The scheme. -/
  scheme : Option (List Char)
  /-- User, host and port, behind two slashes. -/
  authority : Option (List Char)
  /-- The path. -/
  path : List Char
  /-- What follows the question mark. -/
  query : Option (List Char)
  /-- What follows the number sign. -/
  fragment : Option (List Char)
  deriving DecidableEq, Repr

namespace Reference

/-! ## Grammar -/

/-- Whether a character may stand for itself in every part. -/
def isPlain (c : Char) : Bool :=
  c.isAlphanum || "-._~!$&'()*+,;=".toList.contains c

/-- Whether a text holds, besides plain characters, only the given ones and encoded bytes. -/
def keepsTo (others : List Char) : List Char → Bool
  | [] => true
  | '%' :: a :: b :: rest =>
    (digitIn? 16 a).isSome && (digitIn? 16 b).isSome && keepsTo others rest
  | c :: rest => (isPlain c || others.contains c) && keepsTo others rest

/-- Whether a text may be a scheme. -/
def isScheme (cs : List Char) : Bool :=
  cs.head?.any Char.isAlpha
    && cs.all fun c => c.isAlphanum || c == '+' || c == '-' || c == '.'

/-- Whether what stands between brackets may be a host: eight pieces, or an address of a kind yet to
come. -/
def isLiteral (cs : List Char) : Bool :=
  match cs with
  | 'v' :: rest | 'V' :: rest =>
    let version := rest.takeWhile (· ≠ '.')
    let address := (rest.dropWhile (· ≠ '.')).drop 1
    !version.isEmpty && version.all (fun c => (digitIn? 16 c).isSome)
      && !address.isEmpty && address.all fun c => isPlain c || c == ':'
  | cs => (readIpv6 cs).toOption.isSome

/-- Whether a text may be a host. -/
def isHost (cs : List Char) : Bool :=
  match cs with
  | '[' :: inner => inner.getLast? == some ']' && isLiteral inner.dropLast
  | cs => keepsTo [] cs

/-- Whether a text may be user, host and port. -/
def isAuthority (cs : List Char) : Bool :=
  let user := cs.takeWhile (· ≠ '@')
  let (user, place) := if user = cs then ([], cs) else (user, cs.drop (user.length + 1))
  let port := (place.reverse.takeWhile (· ≠ ':')).reverse
  let host :=
    if port = place ∨ ¬ port.all Char.isDigit then place
    else place.take (place.length - port.length - 1)
  keepsTo [':'] user && isHost host

/-! ## Reading and writing -/

/-- Splits a text in front of the first character that ends a part. -/
def spanTo (ends : List Char) (cs : List Char) : List Char × List Char :=
  (cs.takeWhile (!ends.contains ·), cs.dropWhile (!ends.contains ·))

/-- Reads a reference. -/
def ofText? (s : String) : Option Reference := do
  let cs := s.toList
  let (front, rest) := spanTo [':', '/', '?', '#'] cs
  let (scheme, cs) ←
    match rest with
    | ':' :: rest => if isScheme front then some (some front, rest) else none
    | _ => some (none, cs)
  let (authority, cs) ←
    match cs with
    | '/' :: '/' :: rest =>
      let (authority, rest) := spanTo ['/', '?', '#'] rest
      if isAuthority authority then some (some authority, rest) else none
    | cs => some (none, cs)
  let (path, cs) := spanTo ['?', '#'] cs
  let (query, cs) :=
    match cs with
    | '?' :: rest => (some (rest.takeWhile (· ≠ '#')), rest.dropWhile (· ≠ '#'))
    | cs => (none, cs)
  let fragment :=
    match cs with
    | _ :: rest => some rest
    | [] => none
  guard (keepsTo [':', '@', '/'] path)
  guard (query.all (keepsTo [':', '@', '/', '?']) ∧ fragment.all (keepsTo [':', '@', '/', '?']))
  return { scheme, authority, path, query, fragment }

/-- The text of a reference. -/
def text (r : Reference) : String :=
  String.ofList
    ((match r.scheme with | some s => s ++ [':'] | none => [])
      ++ (match r.authority with | some a => '/' :: '/' :: a | none => [])
      ++ r.path
      ++ (match r.query with | some q => '?' :: q | none => [])
      ++ (match r.fragment with | some f => '#' :: f | none => []))

/-! ## Resolving -/

/-- Resolves segments; `level` holds those already passed, in reverse. A path that ends on a level
ends with a slash. -/
def climb (level : List (List Char)) : List (List Char) → List (List Char)
  | [] => level.reverse
  | [last] =>
    if last = ['.', '.'] then (level.drop 1).reverse ++ [[]]
    else if last = ['.'] then level.reverse ++ [[]]
    else level.reverse ++ [last]
  | s :: rest =>
    if s = ['.', '.'] then climb (level.drop 1) rest
    else if s = ['.'] then climb level rest
    else climb (s :: level) rest

/-- The path without the segments `.` and `..`. -/
def flatPath (path : List Char) : List Char :=
  match path with
  | '/' :: rest => '/' :: ['/'].intercalate (climb [] (rest.splitOn '/'))
  | ['.'] | ['.', '.'] => []
  | path => path

/-- The path behind the directory of another one. -/
def merge (base : Reference) (path : List Char) : List Char :=
  if base.authority.isSome ∧ base.path.isEmpty then '/' :: path
  else (base.path.reverse.dropWhile (· ≠ '/')).reverse ++ path

/-- What a reference means at an address. -/
def resolve (base r : Reference) : Reference :=
  if r.scheme.isSome then { r with path := flatPath r.path }
  else if r.authority.isSome then { r with scheme := base.scheme, path := flatPath r.path }
  else
    { scheme := base.scheme, authority := base.authority
      path :=
        if r.path.isEmpty then base.path
        else if r.path.head? = some '/' then flatPath r.path
        else flatPath (merge base r.path)
      query := if r.path.isEmpty ∧ r.query.isNone then base.query else r.query
      fragment := r.fragment }

/-! ## Targets -/

/-- Whether a reference can be put to a server: it has a host, or consists of what may be a host and
a port. -/
def isTarget (r : Reference) : Bool :=
  r.text.utf8ByteSize ≤ maxLength
    && match r.authority with
      | some authority => names authority
      | none => !r.path.contains '/' && r.query.isNone && r.fragment.isNone && names r.text.toList
where
  /-- Whether user, host and port name a host: something without encoded bytes follows the user,
  with at most one colon outside brackets. -/
  names (authority : List Char) : Bool :=
    let place := (authority.reverse.takeWhile (· ≠ '@')).reverse
    !place.isEmpty && !place.contains '%'
      && (place.head? = some '[' || (place.filter (· = ':')).length ≤ 1)

end Reference

end BenchRig.Url
