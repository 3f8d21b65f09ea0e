import BenchRig.Decimal.Numeral
import BenchRig.Json.Printer
import BenchRig.Text.Quoted

/-!
# What can be wrong with JSON text

Text can break the grammar, end too early, or be well formed and not describe what is asked for.
-/

namespace BenchRig.Json

/-- A violation of the grammar. -/
inductive SyntaxFault where
  | endInList
  | endInObject
  | endInString
  | endInValue
  | expectedColon
  | expectedListCommaOrEnd
  | expectedObjectCommaOrEnd
  | expectedIdent
  | expectedValue
  | invalidEscape
  | invalidNumber
  | numberOutOfRange
  | controlCharacter
  | keyMustBeString
  | loneSurrogate
  | unfinishedSurrogate
  | trailingComma
  | trailingCharacters
  | tooDeep
  deriving DecidableEq, Repr

namespace SyntaxFault

/-- What the fault says. -/
def message : SyntaxFault → String
  | endInList => "EOF while parsing a list"
  | endInObject => "EOF while parsing an object"
  | endInString => "EOF while parsing a string"
  | endInValue => "EOF while parsing a value"
  | expectedColon => "expected `:`"
  | expectedListCommaOrEnd => "expected `,` or `]`"
  | expectedObjectCommaOrEnd => "expected `,` or `\x7d`"
  | expectedIdent => "expected ident"
  | expectedValue => "expected value"
  | invalidEscape => "invalid escape"
  | invalidNumber => "invalid number"
  | numberOutOfRange => "number out of range"
  | controlCharacter => "control character (\\u0000-\\u001F) found while parsing a string"
  | keyMustBeString => "key must be a string"
  | loneSurrogate => "lone leading surrogate in hex escape"
  | unfinishedSurrogate => "unexpected end of hex escape"
  | trailingComma => "trailing comma"
  | trailingCharacters => "trailing characters"
  | tooDeep => "recursion limit exceeded"

/-- Whether the text ended too early. -/
def isEnd : SyntaxFault → Bool
  | endInList | endInObject | endInString | endInValue => true
  | _ => false

end SyntaxFault

/-- A name between grave accents. -/
def named (s : String) : String := "`" ++ s ++ "`"

/-- What was found where something else was asked for. -/
inductive Found where
  | null
  | bool (b : Bool)
  | integer (n : Int)
  | double (x : Float)
  | string (s : String)
  | sequence
  | map
  | unitVariant

/-- How the finding is described. -/
def Found.describe : Found → String
  | null => "null"
  | bool b => "boolean " ++ named (if b then "true" else "false")
  | integer n => "integer " ++ named (String.ofList (Decimal.integerNumeral n))
  | double x => "floating point " ++ named (String.ofList (writeDouble x))
  | string s => "string " ++ Text.quoted s
  | sequence => "sequence"
  | map => "map"
  | unitVariant => "unit variant"

/-- A value that does not describe what is asked for. -/
inductive DataFault where
  | wrongType (found : Found) (expected : String)
  | wrongValue (found : Found) (expected : String)
  | wrongLength (length : Nat) (expected : String)
  | unknownVariant (name : String) (variants : List String)
  | unknownField (name : String) (fields : List String)
  | missingField (name : String)
  | duplicateField (name : String)
  | other (message : String)

/-- The names that are allowed, as a phrase. -/
def oneOf : List String → String
  | [] => ""
  | [a] => named a
  | [a, b] => named a ++ " or " ++ named b
  | names => "one of " ++ ", ".intercalate (names.map named)

/-- What the fault says. -/
def DataFault.message : DataFault → String
  | wrongType found expected => "invalid type: " ++ found.describe ++ ", expected " ++ expected
  | wrongValue found expected => "invalid value: " ++ found.describe ++ ", expected " ++ expected
  | wrongLength n expected => "invalid length " ++ Decimal.text n ++ ", expected " ++ expected
  | unknownVariant name variants =>
    "unknown variant " ++ named name ++ ", expected " ++ oneOf variants
  | unknownField name fields => "unknown field " ++ named name ++ ", expected " ++ oneOf fields
  | missingField name => "missing field " ++ named name
  | duplicateField name => "duplicate field " ++ named name
  | other message => message

/-- Why a text could not be decoded. -/
inductive Fault where
  | grammar (fault : SyntaxFault)
  | data (fault : DataFault)

namespace Fault

/-- What the fault says. -/
def message : Fault → String
  | .grammar f => f.message
  | .data f => f.message

/-- The class of the fault: `eof`, `syntax` or `data`. -/
def kind : Fault → String
  | .grammar f => if f.isEnd then "eof" else "syntax"
  | .data _ => "data"

end Fault

end BenchRig.Json
