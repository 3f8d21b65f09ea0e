import BenchRig.Decimal.Shortest
import BenchRig.Json.Value

/-!
# Compact JSON text

Values are written without blanks. In a string, quotes, backslashes and control characters are
escaped and everything else stands for itself, so the text of a value never holds a line break.
Doubles are written in their shortest form, with an exponent below `1e-5` and from `1e16` on.
-/

namespace BenchRig.Json

open Decimal (Layout)

/-- A lower-case hexadecimal digit; `d` is below sixteen. -/
def hexDigit (d : Nat) : Char :=
  if d < 10 then Char.ofNat ('0'.toNat + d) else Char.ofNat ('a'.toNat + d - 10)

/-- How one character is written in a string. -/
def escapeChar (c : Char) : List Char :=
  match c with
  | '"' => ['\\', '"']
  | '\\' => ['\\', '\\']
  | '\x08' => ['\\', 'b']
  | '\x0c' => ['\\', 'f']
  | '\n' => ['\\', 'n']
  | '\r' => ['\\', 'r']
  | '\t' => ['\\', 't']
  | c =>
    if c < ' ' then ['\\', 'u', '0', '0', hexDigit (c.toNat / 16), hexDigit (c.toNat % 16)]
    else [c]

/-- A string between its quotes. -/
def writeString (s : String) : List Char :=
  '"' :: (s.toList.flatMap escapeChar ++ ['"'])

/-- Doubles are positional from `1e-5` to below `1e16`. -/
def doubleLayout : Layout := ⟨-5, 15⟩

/-- The numeral of a double, or `null` when it is not finite. -/
def writeDouble (x : Float) : List Char := ((doubleLayout.shortest? x).getD "null").toList

mutual

/-- The compact text of a value. -/
def Value.write : Value → List Char
  | .null => ['n', 'u', 'l', 'l']
  | .bool true => ['t', 'r', 'u', 'e']
  | .bool false => ['f', 'a', 'l', 's', 'e']
  | .integer n => Decimal.integerNumeral n.val
  | .double x => writeDouble x
  | .string s => writeString s
  | .array [] => ['[', ']']
  | .array (v :: vs) => '[' :: (v.write ++ writeItems vs)
  | .object [] => ['{', '}']
  | .object ((k, v) :: ms) => '{' :: (writeString k ++ ':' :: (v.write ++ writeMembers ms))

/-- What follows the first item of an array. -/
def writeItems : List Value → List Char
  | [] => [']']
  | v :: vs => ',' :: (v.write ++ writeItems vs)

/-- What follows the first member of an object. -/
def writeMembers : List (String × Value) → List Char
  | [] => ['}']
  | (k, v) :: ms => ',' :: (writeString k ++ ':' :: (v.write ++ writeMembers ms))

end

/-- The compact text of a value. -/
def Value.text (v : Value) : String := String.ofList v.write

end BenchRig.Json
