import BenchRig.Url.Host

/-!
# Reading URLs

The text of a URL is read from left to right: scheme, user, host and port, path, query, fragment.
Blanks and control characters around it are dropped, and so are tabs and line breaks anywhere,
though in the path of a file one of them may divide a drive from the text behind it. The schemes of
the web need a host and take a backslash for a slash. Segments of the path that stand for the same
or the upper level are resolved.
-/

namespace BenchRig.Url

open Decimal (digitValue?)

/-- How the rest of a URL is read after its scheme. -/
inductive Kind where
  /-- A scheme of the web, which needs a host. -/
  | web
  /-- The scheme of files. -/
  | file
  /-- Any other scheme. -/
  | plain
  deriving DecidableEq, Repr

/-- The schemes of the web, with their usual ports. -/
def webSchemes : List (String × Nat) :=
  [("http", 80), ("https", 443), ("ws", 80), ("wss", 443), ("ftp", 21)]

/-- The kind of a scheme. -/
def kindOf (scheme : List Char) : Kind :=
  if webSchemes.any fun s => s.1.toList == scheme then .web
  else if scheme = "file".toList then .file
  else .plain

/-- The usual port of a scheme. -/
def usualPort? (scheme : List Char) : Option Nat :=
  (webSchemes.find? fun s => s.1.toList == scheme).map (·.2)

/-- Removes control characters and spaces at both ends. -/
def trimmed (cs : List Char) : List Char :=
  let blank (c : Char) : Bool := c ≤ ' '
  ((cs.dropWhile blank).reverse.dropWhile blank).reverse

/-- Whether `c` is a tab or a line break, which stands for nothing in a URL. -/
def isBreak (c : Char) : Bool := c == '\t' || c == '\n' || c == '\r'

/-- Removes tabs and line breaks. -/
def joined (cs : List Char) : List Char := cs.filter (!isBreak ·)

/-- Whether a character may stand in a scheme after its first letter. -/
def isSchemeChar (c : Char) : Bool := c.isAlphanum || c == '+' || c == '-' || c == '.'

/-- The scheme at the front, in lower case, and what follows its colon. -/
def readScheme? (cs : List Char) : Option (List Char × List Char) :=
  let scheme := joined (cs.takeWhile (· ≠ ':'))
  match cs.dropWhile (· ≠ ':') with
  | _ :: rest =>
    if scheme.head?.any Char.isAlpha && scheme.all isSchemeChar then
      some (scheme.map Char.toLower, rest)
    else none
  | [] => none

/-- Whether `c` divides levels of the path. -/
def isSlash (kind : Kind) (c : Char) : Bool := c == '/' || (c == '\\' && kind != .plain)

/-- Whether `c` ends user, host and port. -/
def endsAuthority (kind : Kind) (c : Char) : Bool := isSlash kind c || c == '?' || c == '#'

/-! ## Query and fragment -/

/-- Splits off query and fragment: path, query, fragment. -/
def splitTail (cs : List Char) : List Char × Option (List Char) × Option (List Char) :=
  let front := cs.takeWhile (· ≠ '#')
  let fragment :=
    match cs.dropWhile (· ≠ '#') with
    | _ :: rest => some rest
    | [] => none
  let query :=
    match front.dropWhile (· ≠ '?') with
    | _ :: rest => some rest
    | [] => none
  (front.takeWhile (· ≠ '?'), query, fragment)

/-! ## Path -/

/-- Whether a segment stands for the same level. -/
def isSameLevel (segment : List Char) : Bool :=
  ["." , "%2e"].contains (String.ofList ((joined segment).map Char.toLower))

/-- Whether a segment stands for the upper level. -/
def isUpperLevel (segment : List Char) : Bool :=
  ["..", ".%2e", "%2e.", "%2e%2e"].contains (String.ofList ((joined segment).map Char.toLower))

/-- Whether a text is a letter with a colon or a bar, as some systems name their drives. -/
def isDrive : List Char → Bool
  | [c, mark] => c.isAlpha && (mark == ':' || mark == '|')
  | _ => false

/-- Whether a segment is a drive, or starts with one in front of a backslash. There is no level
above it. -/
def isTopLevel (segment : List Char) : Bool :=
  isDrive ((joined segment).take 2) && (((joined segment).drop 2).head?.all (· == '\\'))

/-- The name of a drive with a colon. -/
def driveName (segment : List Char) : List Char := segment.take 1 ++ [':']

/-- The letter of a drive that a tab or a line break divides from more text, and that text. -/
def brokenDrive? (segment : List Char) : Option (Char × List Char) :=
  match segment.dropWhile isBreak with
  | c :: rest =>
    match rest.dropWhile isBreak with
    | ':' :: mark :: rest =>
      if c.isAlpha && isBreak mark && !(joined rest).isEmpty then some (c, joined rest) else none
    | _ => none
  | [] => none

/-- Divides a path into segments. -/
def segments (kind : Kind) (cs : List Char) : List (List Char) := cs.splitOnP (isSlash kind)

/-- The level above one that is given in reverse. -/
def levelAbove : List (List Char) → List (List Char)
  | [] => []
  | s :: rest => if isTopLevel s then s :: rest else rest

/-- The level below one that is given in reverse. The first segment of a file may be a drive; a
broken one keeps a tab, and the text behind it is a segment of its own. -/
def levelBelow (kind : Kind) (level : List (List Char)) (segment : List Char) : List (List Char) :=
  let text := joined segment
  if kind = .file ∧ level.isEmpty then
    match brokenDrive? segment with
    | some (letter, rest) => [rest, [letter, ':', '\t']]
    | none => [if isDrive text then driveName text else text]
  else text :: level

/-- Resolves segments; `level` holds those already passed, in reverse. A path that ends on a level
ends with a slash. -/
def resolve (kind : Kind) (level : List (List Char)) : List (List Char) → List (List Char)
  | [] => level.reverse
  | [last] =>
    if isUpperLevel last then (levelAbove level).reverse ++ [[]]
    else if isSameLevel last then level.reverse ++ [[]]
    else (levelBelow kind level last).reverse
  | s :: rest =>
    if isUpperLevel s then resolve kind (levelAbove level) rest
    else if isSameLevel s then resolve kind level rest
    else resolve kind (levelBelow kind level s) rest

/-- The resolved segments of a path, which is given without its first slash. -/
def levels (kind : Kind) (cs : List Char) : List (List Char) := resolve kind [] (segments kind cs)

/-- The path with given segments, in its encoded form. -/
def pathOf (segments : List (List Char)) : List Char :=
  '/' :: ['/'].intercalate (segments.map fun s => percentEncode inPath (joined s))

/-- The path behind a host. Only schemes outside the web may have none. -/
def pathAfterHost (kind : Kind) (cs : List Char) : List Char :=
  match cs with
  | [] => if kind = .plain then [] else ['/']
  | c :: rest => pathOf (levels kind (if isSlash kind c then rest else c :: rest))

/-! ## User, host and port -/

/-- The user in front of the last at sign. -/
def readUser (cs : List Char) : Option User :=
  let name := cs.takeWhile (· ≠ ':')
  let password := (cs.dropWhile (· ≠ ':')).drop 1
  if name.isEmpty ∧ password.isEmpty then none
  else some
    { name := percentEncode inUser name
      password := if password.isEmpty then none else some (percentEncode inUser password) }

/-- Splits at the last at sign, if there is one. -/
def splitUser (cs : List Char) : Option (List Char) × List Char :=
  match cs.reverse.dropWhile (· ≠ '@') with
  | _ :: front => (some front.reverse, (cs.reverse.takeWhile (· ≠ '@')).reverse)
  | [] => (none, cs)

/-- Splits host from port at the first colon outside brackets. -/
def splitPort (inside : Bool) : List Char → List Char × Option (List Char)
  | [] => ([], none)
  | c :: cs =>
    if c = ':' ∧ ¬ inside then ([], some cs)
    else
      let (host, port) := splitPort (if c = '[' then true else if c = ']' then false else inside) cs
      (c :: host, port)

/-- Reads a port; the usual one of the scheme is left out. -/
def readPort (scheme : List Char) (cs : List Char) : Except Fault (Option Nat) :=
  if cs.any fun c => (digitValue? c).isNone then .error .invalidPort
  else
    let port := Decimal.denoted cs
    if UInt16.size ≤ port then .error .invalidPort
    else if cs.isEmpty ∨ usualPort? scheme = some port then .ok none
    else .ok (some port)

/-- What stands in front of a path: user, host and port. -/
structure Place where
  /-- The user, if one is given. -/
  user : Option User := none
  /-- The host, unless it is empty. -/
  host : Option Host := none
  /-- The port, unless it is the usual one. -/
  port : Option Nat := none

/-- Reads what follows the two slashes behind a scheme, up to the path. A backslash ends a port,
also where it does not divide levels. -/
def readPlace (scheme : List Char) (kind : Kind) (cs : List Char) :
    Except Fault (Place × List Char) := do
  let (user, place) := splitUser (cs.takeWhile fun c => !endsAuthority kind c)
  let rest := cs.dropWhile fun c => !endsAuthority kind c
  let (hostText, portText) := splitPort false place
  if hostText.isEmpty then
    if kind = .web ∨ portText.isSome ∨ (user = some [] ∧ ¬ rest.isEmpty) then
      throw .emptyHost
    if (user.bind readUser).isSome then
      throw .emptyHost
    return ({}, rest)
  else
    let host ← if kind = .web then readWebHost hostText else readPlainHost hostText
    let digits := (portText.getD []).takeWhile (· ≠ '\\')
    let port ← readPort scheme digits
    return ({ user := user.bind readUser, host, port },
      (portText.getD []).drop digits.length ++ rest)

/-- Reads the host of a file; the local one is left out. -/
def readFileHost (cs : List Char) : Except Fault (Option Host) :=
  if cs.isEmpty then .ok none
  else do
    match ← readWebHost cs with
    | .name name => return if name = "localhost".toList then none else some (.name name)
    | host => return some host

/-! ## URLs -/

/-- The query in its encoded form. -/
def encodedQuery (kind : Kind) (query : Option (List Char)) : Option (List Char) :=
  query.map (percentEncode (if kind = .plain then inQuery else inSpecialQuery))

/-- The address with a given front; `rest` holds path, query and fragment. -/
def addressAt (scheme : List Char) (kind : Kind) (place : Place) (rest : List Char) : Address :=
  let (path, query, fragment) := splitTail rest
  { scheme, slashes := true, user := place.user, host := place.host, port := place.port
    path := pathAfterHost kind path
    query := encodedQuery kind query
    fragment := fragment.map (percentEncode inFragment) }

/-- Reads a URL after its scheme and the two slashes behind it. -/
def readHierarchy (scheme : List Char) (kind : Kind) (cs : List Char) : Except Fault Address := do
  let (place, rest) ← readPlace scheme kind cs
  return addressAt scheme kind place rest

/-- Reads a URL of the web after its scheme. Any number of slashes may follow the scheme. -/
def readWeb (scheme cs : List Char) : Except Fault Address :=
  readHierarchy scheme .web (cs.dropWhile (isSlash .web))

/-- What follows a slash. -/
def behindSlash? (cs : List Char) : Option (List Char) :=
  match cs.dropWhile isBreak with
  | c :: rest => if isSlash .file c then some rest else none
  | [] => none

/-- Reads the host of a file and what follows it up to the path, whose first slash is dropped only
behind a host. A drive in the place of the host belongs to the path. -/
def readFilePlace (cs : List Char) : Except Fault (Option Host × List Char) :=
  match behindSlash? cs with
  | none => .ok (none, cs)
  | some cs =>
    match behindSlash? cs with
    | none => .ok (none, cs)
    | some cs =>
      let hostText := joined (cs.takeWhile fun c => !endsAuthority .file c)
      if isDrive hostText then .ok (none, cs)
      else do
        let rest := cs.dropWhile fun c => !endsAuthority .file c
        match ← readFileHost hostText with
        | none => return (none, rest)
        | some host => return (some host, (behindSlash? rest).getD rest)

/-- Reads a URL of a file after its scheme. A drive is on no host unless it is broken, and slashes
in front of the first segment are dropped. -/
def readFile (scheme cs : List Char) : Except Fault Address := do
  let (host, rest) ← readFilePlace cs
  let (path, query, fragment) := splitTail rest
  let segments := levels .file path
  return { scheme, slashes := true, user := none, port := none
           host := if segments.head?.any isDrive then none else host
           path := pathOf (segments.dropWhile (·.isEmpty))
           query := encodedQuery .file (query.map joined)
           fragment := fragment.map fun f => percentEncode inFragment (joined f) }

/-- Reads a URL of another scheme after that: with a host, with a path from the top, or with an
opaque path. -/
def readPlain (scheme cs : List Char) : Except Fault Address :=
  match cs with
  | '/' :: '/' :: rest => readHierarchy scheme .plain rest
  | cs =>
    let (path, query, fragment) := splitTail cs
    let path :=
      match path with
      | '/' :: rest => pathOf (levels .plain rest)
      | path => percentEncode isControl path
    return { scheme, slashes := false, user := none, host := none, port := none, path
             query := encodedQuery .plain query
             fragment := fragment.map (percentEncode inFragment) }

/-- Reads an absolute URL. -/
def Address.ofText (s : String) : Except Fault Address :=
  match readScheme? (trimmed s.toList) with
  | none => .error .noScheme
  | some (scheme, rest) =>
    match kindOf scheme with
    | .web => readWeb scheme (joined rest)
    | .file => readFile scheme rest
    | .plain => readPlain scheme (joined rest)

end BenchRig.Url
