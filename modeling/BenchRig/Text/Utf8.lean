/-!
# UTF-8

Text as bytes, and bytes as text. Decoding never fails: each longest part that could start a
character but does not become one is read as one replacement character.
-/

namespace BenchRig.Text

/-- The bytes of a text. -/
def encode (s : String) : List UInt8 := s.toList.flatMap String.utf8EncodeChar

/-- The character that stands for bytes that are no text. -/
def replacement : Char := '\uFFFD'

/-- Whether `b` can follow the first byte of a character, in any place but the second. -/
def isTail (b : UInt8) : Bool := 0x80 ≤ b && b ≤ 0xBF

/-- Whether `b` can be the second byte of a character that starts with `a`: overlong forms,
surrogates and numbers above the last code point are ruled out here. -/
def isSecond (a b : UInt8) : Bool :=
  if a == 0xE0 then 0xA0 ≤ b && b ≤ 0xBF
  else if a == 0xED then 0x80 ≤ b && b ≤ 0x9F
  else if a == 0xF0 then 0x90 ≤ b && b ≤ 0xBF
  else if a == 0xF4 then 0x80 ≤ b && b ≤ 0x8F
  else isTail b

/-- How many bytes a character has that starts with `a`; zero if none does. -/
def width (a : UInt8) : Nat :=
  if a < 0x80 then 1
  else if 0xC2 ≤ a && a ≤ 0xDF then 2
  else if 0xE0 ≤ a && a ≤ 0xEF then 3
  else if 0xF0 ≤ a && a ≤ 0xF4 then 4
  else 0

/-- The character with the given leading bits and tails. -/
def assemble (lead : Nat) (tails : List UInt8) : Char :=
  Char.ofNat (tails.foldl (fun n b => n * 64 + b.toNat % 64) lead)

/-- Reads one character or one replacement from the bytes `a :: rest`; answers it and what is left
of `rest`. -/
def decodeOne (a : UInt8) (rest : List UInt8) : Char × List UInt8 :=
  match width a, rest with
  | 1, _ => (Char.ofNat a.toNat, rest)
  | 2, b :: rest₁ =>
    if isSecond a b then (assemble (a.toNat % 32) [b], rest₁) else (replacement, rest)
  | 3, b :: rest₁ =>
    if isSecond a b then
      match rest₁ with
      | c :: rest₂ =>
        if isTail c then (assemble (a.toNat % 16) [b, c], rest₂) else (replacement, rest₁)
      | [] => (replacement, [])
    else (replacement, rest)
  | 4, b :: rest₁ =>
    if isSecond a b then
      match rest₁ with
      | c :: rest₂ =>
        if isTail c then
          match rest₂ with
          | d :: rest₃ =>
            if isTail d then (assemble (a.toNat % 8) [b, c, d], rest₃) else (replacement, rest₂)
          | [] => (replacement, [])
        else (replacement, rest₁)
      | [] => (replacement, [])
    else (replacement, rest)
  | _, _ => (replacement, rest)

/-- What is left after a character is no longer than what followed its first byte. -/
theorem length_decodeOne_le (a : UInt8) (rest : List UInt8) :
    (decodeOne a rest).2.length ≤ rest.length := by
  unfold decodeOne
  repeat' split
  all_goals simp_all <;> omega

/-- The characters of the bytes, with replacements where they are no text. -/
def decodeChars : List UInt8 → List Char
  | [] => []
  | a :: rest =>
    let next := decodeOne a rest
    next.1 :: decodeChars next.2
termination_by bytes => bytes.length
decreasing_by
  have := length_decodeOne_le a rest
  simp only [List.length_cons]
  omega

/-- The text of the bytes, with replacements where they are no text. -/
def decode (bytes : List UInt8) : String := String.ofList (decodeChars bytes)

end BenchRig.Text
