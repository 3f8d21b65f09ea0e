/-!
# Terminal styles

A styled text is an opening sequence `ESC[…m`, the text, and the reset `ESC[0m`. A reset inside
the text would end the style early, so the opening is repeated after each of them.
-/

namespace BenchRig.Ansi

/-- The foreground colours in use. -/
inductive Colour where
  | red | green | yellow | blue | magenta | cyan | brightBlack | brightRed
  deriving DecidableEq, Repr

/-- The parameter that selects the colour. -/
def Colour.code : Colour → String
  | .red => "31"
  | .green => "32"
  | .yellow => "33"
  | .blue => "34"
  | .magenta => "35"
  | .cyan => "36"
  | .brightBlack => "90"
  | .brightRed => "91"

/-- A foreground colour, in bold or not. -/
structure Style where
  /-- The foreground colour. -/
  colour : Colour
  /-- Whether the text is bold as well. -/
  bold : Bool := false
  deriving DecidableEq, Repr

/-- The character that starts every sequence. -/
def escape : Char := '\x1b'

/-- The sequence that ends every style. -/
def reset : List Char := [escape, '[', '0', 'm']

/-- The sequence that starts a style; bold comes before the colour. -/
def Style.opening (s : Style) : List Char :=
  [escape, '['] ++ (if s.bold then ['1', ';'] else []) ++ s.colour.code.toList ++ ['m']

/-- Repeats `opening` after each reset in the text. -/
def reopen (opening : List Char) : List Char → List Char
  | '\x1b' :: '[' :: '0' :: 'm' :: rest => reset ++ opening ++ reopen opening rest
  | c :: rest => c :: reopen opening rest
  | [] => []

/-- The text in the given style, or as it is when the terminal is not to be styled. -/
def paint (enabled : Bool) (s : Style) (text : String) : String :=
  if enabled then String.ofList (s.opening ++ reopen s.opening text.toList ++ reset) else text

end BenchRig.Ansi
