/-!
# Lines

A line ends with a newline, or with a carriage return and a newline; the last one may lack its end.
A text that ends with a newline has no further, empty line after it.
-/

namespace BenchRig.Text

/-- Drops one carriage return at the end. -/
def dropReturn (cs : List Char) : List Char :=
  match cs.getLast? with
  | some '\r' => cs.dropLast
  | _ => cs

/-- The lines of `cs`, where `seen` is the part already read of the first one. -/
def linesOnto (seen : List Char) : List Char → List (List Char)
  | [] => if seen.isEmpty then [] else [seen]
  | '\n' :: rest => dropReturn seen :: linesOnto [] rest
  | c :: rest => linesOnto (seen ++ [c]) rest

/-- The lines of a text, without their ends. -/
def lines (s : String) : List String :=
  (linesOnto [] s.toList).map String.ofList

end BenchRig.Text
