import BenchRig.Text.Printable

/-!
# Quoted text

Text between double quotes, as it is shown to a developer: quotes and backslashes are escaped, and
what would not show is written by its code point.
-/

namespace BenchRig.Text

/-- The lower-case hexadecimal numeral of `n`. -/
def hexNumeral (n : Nat) : List Char := Nat.toDigits 16 n

/-- How one character is written between the quotes. -/
def escapeQuoted (c : Char) : List Char :=
  match c with
  | '\x00' => ['\\', '0']
  | '\t' => ['\\', 't']
  | '\n' => ['\\', 'n']
  | '\r' => ['\\', 'r']
  | '"' => ['\\', '"']
  | '\\' => ['\\', '\\']
  | c => if isPrintable c then [c] else ['\\', 'u', '\x7b'] ++ hexNumeral c.toNat ++ ['\x7d']

/-- The text between double quotes. -/
def quoted (s : String) : String :=
  String.ofList ('"' :: s.toList.flatMap escapeQuoted ++ ['"'])

end BenchRig.Text
