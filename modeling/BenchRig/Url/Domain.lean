import BenchRig.Text.Utf8
import BenchRig.Url.Name.Compose
import BenchRig.Url.Name.Direction
import BenchRig.Url.Name.Joining
import BenchRig.Url.Punycode

/-!
# Names of hosts

The name of a host consists of labels divided by points. It is read in folded and composed form, and
written in ASCII: a label with other characters is written in Punycode behind `xn--`, and a label
that is given in that form must stand for one that needs it.
-/

namespace BenchRig.Url

open Name (compose fold? isFolded isMark joinersFit readsAlone turns)
open Text (isAscii)

/-- Whether an ASCII character must not stand in a name. -/
def isForbiddenInName (c : Char) : Bool :=
  c ≤ ' ' || c == '\x7f' || "%#/:<>?@[\\]^|".toList.contains c

/-- What marks a label in Punycode. -/
def encodedMark : List Char := ['x', 'n', '-', '-']

/-- The most characters of a label that are written in Punycode. -/
def maxEncoded : Nat := 1000

/-- The most characters of Punycode that are read. -/
def maxDecoded : Nat := 2000

/-- The characters that a label stands for. One in Punycode must not stand for ASCII alone, nor for
characters that would be read as others. -/
def readLabel (label : List Char) : Option (List Char) :=
  if encodedMark.isPrefixOf label then do
    let digits := label.drop encodedMark.length
    guard (digits.getLast?.any (· ≠ '-') ∧ digits.length ≤ maxDecoded)
    let cs ← Punycode.decode digits
    guard (cs.all isFolded ∧ compose cs = cs)
    return cs
  else some label

/-- Whether a label may stand in a name, apart from its direction. -/
def isLabel (cs : List Char) : Bool :=
  !cs.head?.any isMark && joinersFit [] cs && (cs.all isAscii || cs.length ≤ maxEncoded)

/-- A label in ASCII. -/
def asciiLabel (cs : List Char) : List Char :=
  if cs.all isAscii then cs else encodedMark ++ Punycode.encode cs

/-- The name that bytes denote, or `none` if they are no name. -/
def domainOf (bytes : List UInt8) : Option (List Char) := do
  let folded ← (Text.decodeChars bytes).mapM fold?
  let text := compose folded.flatten
  guard (!text.any isForbiddenInName)
  let labels ← (text.splitOn '.').mapM readLabel
  guard (labels.all isLabel)
  guard (labels.any (·.any turns) → labels.all readsAlone)
  return ['.'].intercalate (labels.map asciiLabel)

end BenchRig.Url
