import BenchRig.Decimal.Numeral

/-!
# Points in time

A point in time is a day of the Gregorian calendar and a time of that day, in universal time. The
sixtieth second of a minute is a leap second. Timestamps are written for people and for machines,
and read in the form for machines, which may name another offset from universal time.
-/

namespace BenchRig.Log

open Decimal (paddedNumeral digitValue?)

/-- A point in time, in universal time. -/
structure Timestamp where
  /-- The year, counted through zero. -/
  year : Int
  /-- The month, from one on. -/
  month : Nat
  /-- The day of the month, from one on. -/
  day : Nat
  /-- The hour. -/
  hour : Nat
  /-- The minute. -/
  minute : Nat
  /-- The second; sixty is a leap second. -/
  second : Nat
  /-- The nanoseconds. -/
  nano : Nat
  deriving DecidableEq, Repr

namespace Timestamp

/-- The start of the year 1970. -/
def epoch : Timestamp := ⟨1970, 1, 1, 0, 0, 0, 0⟩

/-- A year between zero and 9999 with four digits, any other one with its sign. -/
def yearText (year : Int) : List Char :=
  if 0 ≤ year ∧ year ≤ 9999 then paddedNumeral 4 year.natAbs
  else (if year < 0 then '-' else '+') :: paddedNumeral 4 year.natAbs

/-- The date, divided by hyphens. -/
def dateText (t : Timestamp) : List Char :=
  yearText t.year ++ '-' :: paddedNumeral 2 t.month ++ '-' :: paddedNumeral 2 t.day

/-- The time of the day down to seconds, divided by colons. -/
def timeText (t : Timestamp) : List Char :=
  paddedNumeral 2 t.hour ++ ':' :: paddedNumeral 2 t.minute ++ ':' :: paddedNumeral 2 t.second

/-- The form for people: date and time down to milliseconds. -/
def console (t : Timestamp) : String :=
  String.ofList (t.dateText ++ ' ' :: t.timeText ++ '.' :: paddedNumeral 3 (t.nano / 1000000))

/-- The nanoseconds as a fraction of three, six or nine digits, as few as are needed. -/
def fractionText (nano : Nat) : List Char :=
  if nano = 0 then []
  else if nano % 1000000 = 0 then '.' :: paddedNumeral 3 (nano / 1000000)
  else if nano % 1000 = 0 then '.' :: paddedNumeral 6 (nano / 1000)
  else '.' :: paddedNumeral 9 nano

/-- The form for machines. -/
def machine (t : Timestamp) : String :=
  String.ofList (t.dateText ++ 'T' :: t.timeText ++ fractionText t.nano ++ ['Z'])

/-! ## Calendar -/

/-- Whether a year has a leap day. -/
def isLeapYear (year : Int) : Bool := year % 4 == 0 && (year % 100 != 0 || year % 400 == 0)

/-- The number of days of a month. -/
def monthLength (year : Int) (month : Nat) : Nat :=
  if month = 2 then (if isLeapYear year then 29 else 28)
  else if month = 4 ∨ month = 6 ∨ month = 9 ∨ month = 11 then 30
  else 31

/-- The day after a date. -/
def dayAfter (date : Int × Nat × Nat) : Int × Nat × Nat :=
  let (year, month, day) := date
  if day < monthLength year month then (year, month, day + 1)
  else if month < 12 then (year, month + 1, 1)
  else (year + 1, 1, 1)

/-- The day before a date. -/
def dayBefore (date : Int × Nat × Nat) : Int × Nat × Nat :=
  let (year, month, day) := date
  if 1 < day then (year, month, day - 1)
  else if 1 < month then (year, month - 1, monthLength year (month - 1))
  else (year - 1, 12, 31)

/-- The point in time a number of nanoseconds after the start of the year 1970. -/
def ofNanos (n : Nat) : Timestamp :=
  let seconds := n / 1000000000
  let (year, month, day) := Nat.repeat dayAfter (seconds / 86400) (1970, 1, 1)
  { year, month, day, hour := seconds / 3600 % 24, minute := seconds / 60 % 60
    second := seconds % 60, nano := n % 1000000000 }

/-- The same point in time, given with an offset of less than a day from universal time. -/
def withOffset (t : Timestamp) (offset : Int) : Timestamp :=
  let second := if t.second = 60 then 59 else t.second
  let ofDay : Int := t.hour * 3600 + t.minute * 60 + second - offset
  let date := (t.year, t.month, t.day)
  let (year, month, day) :=
    if ofDay < 0 then dayBefore date else if 86400 ≤ ofDay then dayAfter date else date
  let rest := (ofDay % 86400).toNat
  { year, month, day, hour := rest / 3600, minute := rest / 60 % 60
    second := rest % 60 + (t.second - second), nano := t.nano }

/-! ## Reading -/

/-- Why a text is not a timestamp. -/
inductive Fault where
  | outOfRange
  | invalid
  | tooShort
  | tooLong
  deriving DecidableEq, Repr

/-- What the fault says. -/
def Fault.message : Fault → String
  | outOfRange => "input is out of range"
  | invalid => "input contains invalid characters"
  | tooShort => "premature end of input"
  | tooLong => "trailing input"

/-- Whether a character is a blank. -/
def isSpace (c : Char) : Bool :=
  c == ' ' || ('\t' ≤ c && c ≤ '\r') || c == '\x85' || c == '\u00a0' || c == '\u1680'
    || ('\u2000' ≤ c && c ≤ '\u200a') || c == '\u2028' || c == '\u2029' || c == '\u202f'
    || c == '\u205f' || c == '\u3000'

/-- Removes blanks at the front. -/
def trim (cs : List Char) : List Char := cs.dropWhile isSpace

/-- At most `width` digits at the front, at least one. -/
def readNumber (width : Nat) (cs : List Char) : Except Fault (Nat × List Char) :=
  let digits := (cs.takeWhile fun c => (digitValue? c).isSome).take width
  match digits, cs with
  | [], [] => .error .tooShort
  | [], _ => .error .invalid
  | _, _ =>
    let n := Decimal.denoted digits
    if n < 9223372036854775808 then .ok (n, cs.drop digits.length) else .error .outOfRange

/-- A part of a date or time between bounds. -/
def readPart (width least greatest : Nat) (cs : List Char) : Except Fault (Nat × List Char) := do
  let (n, rest) ← readNumber width (trim cs)
  if n < least ∨ greatest < n then throw .outOfRange
  return (n, rest)

/-- A year: four digits, or any number of them after a sign. -/
def readYear (cs : List Char) : Except Fault (Int × List Char) := do
  let (year, rest) ←
    match trim cs with
    | '-' :: rest => do
      let (n, rest) ← readNumber rest.length rest
      pure (-(n : Int), rest)
    | '+' :: rest => do
      let (n, rest) ← readNumber rest.length rest
      pure ((n : Int), rest)
    | cs => do
      let (n, rest) ← readNumber 4 cs
      pure ((n : Int), rest)
  if year < -262143 ∨ 262142 < year then throw .outOfRange
  return (year, rest)

/-- A mark that must come next. -/
def readMark (mark : Char) (cs : List Char) : Except Fault (List Char) :=
  match trim cs with
  | [] => .error .tooShort
  | c :: rest => if c = mark then .ok rest else .error .invalid

/-- A fraction of a second in nanoseconds; digits after the ninth do not count. -/
def readFraction (cs : List Char) : Except Fault (Nat × List Char) :=
  match cs with
  | '.' :: rest => do
    let (n, more) ← readNumber 9 rest
    let used := rest.length - more.length
    return (n * Nat.pow 10 (9 - used), more.dropWhile fun c => (digitValue? c).isSome)
  | cs => .ok (0, cs)

/-- Two digits. -/
def readTwo (cs : List Char) : Except Fault (Nat × Nat × List Char) :=
  match cs with
  | a :: b :: rest =>
    match digitValue? a, digitValue? b with
    | some a, some b => .ok (a, b, rest)
    | _, _ => .error .invalid
  | _ => .error .tooShort

/-- An offset from universal time, in seconds. -/
def readOffset (cs : List Char) : Except Fault (Int × List Char) := do
  match cs with
  | [] => throw .tooShort
  | sign :: rest =>
    if sign = 'Z' ∨ sign = 'z' then
      return (0, rest)
    if (cs.take 3).map Char.toUpper = "UTC".toList then
      return (0, cs.drop 3)
    if sign ≠ '+' ∧ sign ≠ '-' ∧ sign ≠ '−' then
      throw .invalid
    let (h, h', rest) ← readTwo rest
    let (m, m', rest) ← readTwo (rest.dropWhile fun c => c == ':' || isSpace c)
    if 5 < m then
      throw .outOfRange
    let seconds : Int := (10 * h + h') * 3600 + (10 * m + m') * 60
    return (if sign = '+' then seconds else -seconds, rest)

/-- Reads a timestamp in the form for machines. -/
def ofText (s : String) : Except Fault Timestamp := do
  let (year, rest) ← readYear s.toList
  let (month, rest) ← readPart 2 1 12 (← readMark '-' rest)
  let (day, rest) ← readPart 2 1 31 (← readMark '-' rest)
  let rest ←
    match rest with
    | [] => throw .tooShort
    | c :: rest => if c = 'T' ∨ c = 't' ∨ c = ' ' then pure rest else throw .invalid
  let (hour, rest) ← readPart 2 0 23 rest
  let (minute, rest) ← readPart 2 0 59 (← readMark ':' rest)
  let (second, rest) ← readPart 2 0 60 (← readMark ':' rest)
  let (nano, rest) ← readFraction rest
  let (offset, rest) ← readOffset (trim rest)
  if !(trim rest).isEmpty then
    throw .tooLong
  if offset ≤ -86400 ∨ 86400 ≤ offset ∨ monthLength year month < day then
    throw .outOfRange
  return withOffset ⟨year, month, day, hour, minute, second, nano⟩ offset

end Timestamp

end BenchRig.Log
