/-!
# Upper case within ASCII

The full upper-case mapping of a character may be several characters. Where a text is compared with
words of ASCII letters, only the characters whose upper case is ASCII alone can contribute to a
match; all others are left as they are, which no such word contains either.
-/

namespace BenchRig.Text

/-- The upper case of a character if it consists of ASCII characters, and the character itself
otherwise. Besides the ASCII letters these are the dotless i, the long s, the sharp s and the
ligatures of f, i, l, s and t. -/
def upperAscii (c : Char) : List Char :=
  match c with
  | 'ı' => ['I']
  | 'ſ' => ['S']
  | 'ß' => ['S', 'S']
  | '\uFB00' => ['F', 'F']
  | '\uFB01' => ['F', 'I']
  | '\uFB02' => ['F', 'L']
  | '\uFB03' => ['F', 'F', 'I']
  | '\uFB04' => ['F', 'F', 'L']
  | '\uFB05' => ['S', 'T']
  | '\uFB06' => ['S', 'T']
  | c => [c.toUpper]

/-- The text with every character in upper case, as far as that is ASCII. -/
def upper (s : String) : String := String.ofList (s.toList.flatMap upperAscii)

end BenchRig.Text
