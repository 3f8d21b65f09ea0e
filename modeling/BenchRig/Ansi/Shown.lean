import BenchRig.Ansi.Basic

/-!
# What a terminal shows

Text for a terminal may hold sequences that are carried out instead of being shown. An escape
character starts one and breaks off the one before. What follows it tells how far the sequence goes:
to a final letter, behind signs or parameters, or to the end of a text of its own. Other control
characters are not shown either, apart from those that lay out the text.
-/

namespace BenchRig.Ansi

/-- Where a reader of text for a terminal stands. -/
inductive Reading where
  /-- In text that is shown. -/
  | text
  /-- Behind an escape character. -/
  | escaped
  /-- Behind an escape character and signs, in front of the final letter. -/
  | signs
  /-- In parameters, in front of the final letter. -/
  | parameters
  /-- In a text for the surroundings of the terminal, which a bell ends. -/
  | title
  /-- In another text that is not shown. -/
  | aside
  deriving DecidableEq, Repr

/-- Whether a control character lays out the text around it. -/
def isLayout (c : Char) : Bool := c == '\t' || c == '\n' || c == '\x0c' || c == '\r'

/-- Where the reader stands behind a character. -/
def Reading.next (r : Reading) (c : Char) : Reading :=
  if c = escape then .escaped
  else if c = '\x18' ∨ c = '\x1a' then .text
  else
    match r with
    | .text => .text
    | .escaped =>
      if isLayout c then .text
      else if c < ' ' ∨ '\x7f' ≤ c then .escaped
      else if c < '0' then .signs
      else if c = '[' then .parameters
      else if c = ']' then .title
      else if c = 'P' ∨ c = 'X' ∨ c = '^' ∨ c = '_' then .aside
      else .text
    | .signs => if isLayout c || ('0' ≤ c && c < '\x7f') then .text else .signs
    | .parameters => if isLayout c || ('@' ≤ c && c < '\x7f') then .text else .parameters
    | .title => if c = '\x07' then .text else .title
    | .aside => .aside

/-- Whether a character is shown where the reader stands. -/
def Reading.shows (r : Reading) (c : Char) : Bool :=
  match r with
  | .text => isLayout c || (' ' ≤ c && c != '\x7f')
  | .escaped | .signs | .parameters => isLayout c
  | .title | .aside => false

/-- The characters that are shown, from where the reader stands. -/
def shownFrom (r : Reading) : List Char → List Char
  | [] => []
  | c :: cs => if r.shows c then c :: shownFrom (r.next c) cs else shownFrom (r.next c) cs

/-- What a terminal shows of a text. -/
def shown (s : String) : String := String.ofList (shownFrom .text s.toList)

end BenchRig.Ansi
