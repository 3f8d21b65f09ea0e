import BenchRig.Ansi.Shown
import BenchRig.Command.Help
import BenchRig.Text.Lines

/-!
# Reading the command line

Arguments are read from left to right, and the first one that is not understood, or that asks for
help, decides. Each flag may be given once in front of the command and once behind it.
-/

namespace BenchRig.Command

/-- What ends the reading of a command line. -/
inductive Stop where
  /-- Help is asked for. -/
  | help (text : String)
  /-- The version is asked for. -/
  | version
  /-- Nothing is asked for. -/
  | nothingGiven
  | noCommand
  | unknownArgument (argument : String)
  | unknownCommand (name : String)
  | repeatedFlag (name : String)
  | unexpectedValue (value name : String)
  deriving DecidableEq, Repr

namespace Stop

/-- Whether the program has done what it was asked for. -/
def isSuccess : Stop → Bool
  | help _ | version => true
  | _ => false

/-- The exit code of the program. -/
def exitCode (s : Stop) : UInt8 := if s.isSuccess then 0 else 2

/-- The first line about an error. -/
def errorLine (text : String) : String := ((Text.lines text).head?).getD ""

/-- What the program says: the whole text, or the first line about an error. Of arguments, it says
what a terminal shows. -/
def message : Stop → String
  | help text => text
  | version => versionText
  | nothingGiven => programHelp
  | noCommand =>
    errorLine ("error: '" ++ programName ++ "' requires a subcommand but one was not provided")
  | unknownArgument argument =>
    errorLine ("error: unexpected argument '" ++ Ansi.shown argument ++ "' found")
  | unknownCommand name => errorLine ("error: unrecognized subcommand '" ++ Ansi.shown name ++ "'")
  | repeatedFlag name =>
    errorLine ("error: the argument '--" ++ name ++ "' cannot be used multiple times")
  | unexpectedValue value name =>
    errorLine ("error: unexpected value '" ++ Ansi.shown value ++ "' for '--" ++ name
      ++ "' found; no more were expected")

end Stop

/-- Where an argument stands. -/
inductive Place where
  /-- In front of the command. -/
  | front
  /-- Behind the command. -/
  | behind (k : Kind)
  deriving DecidableEq, Repr

/-- The help that belongs to a place. -/
def Place.help : Place → String
  | .front => programHelp
  | .behind k => commandHelp k

/-- An argument by its form. -/
inductive Shape where
  /-- Two hyphens: everything behind them is taken as it is. -/
  | separator
  /-- A name after two hyphens, with a value after an equals sign. -/
  | long (name : String) (value : Option String)
  /-- Letters after one hyphen. -/
  | short (first : Char)
  /-- Anything else. -/
  | plain
  deriving DecidableEq, Repr

/-- The form of an argument. -/
def shapeOf (argument : String) : Shape :=
  match argument.toList with
  | ['-', '-'] => .separator
  | '-' :: '-' :: rest =>
    let name := String.ofList (rest.takeWhile (· ≠ '='))
    match rest.dropWhile (· ≠ '=') with
    | _ :: value => .long name (some (String.ofList value))
    | [] => .long name none
  | '-' :: c :: _ => .short c
  | _ => .plain

/-- Reads a long argument: the flag it gives. -/
def readLong (place : Place) (seen : List Flag) (name : String) (value : Option String) :
    Except Stop Flag :=
  let known := (Flag.all.map Flag.name).contains name || name == "help"
    || (name == "version" && place == .front)
  if !known then .error (.unknownArgument ("--" ++ name))
  else
    match value with
    | some value => .error (.unexpectedValue value name)
    | none =>
      match Flag.all.find? fun f => f.name == name with
      | some f => if f ∈ seen then .error (.repeatedFlag name) else .ok f
      | none => .error (if name == "help" then .help place.help else .version)

/-- Reads a short argument, none of which gives a flag. -/
def readShort (place : Place) (first : Char) : Stop :=
  if first = 'h' then .help place.help
  else if first = 'V' ∧ place = .front then .version
  else .unknownArgument (String.ofList ['-', first])

/-- What an argument that is no flag stops with, where no command fits. -/
def unfitting (place : Place) (separated : Bool) (argument : String) : Stop :=
  match place with
  | .behind _ => .unknownArgument argument
  | .front =>
    if separated && ((ofCommand? argument).isSome || argument == "help") then
      .unknownArgument argument
    else .unknownCommand argument

/-- Reads the arguments behind a command; `seen` holds the flags given there. -/
def readBehind (k : Kind) (separated : Bool) (seen : List Flag) :
    List String → Except Stop (List Flag)
  | [] => .ok seen
  | argument :: rest =>
    if separated then .error (unfitting (.behind k) true argument)
    else
      match shapeOf argument with
      | .separator => readBehind k true seen rest
      | .long name value => do
        let f ← readLong (.behind k) seen name value
        readBehind k false (seen ++ [f]) rest
      | .short first => .error (readShort (.behind k) first)
      | .plain => .error (unfitting (.behind k) false argument)

/-- Reads the names behind the command `help`. -/
def readHelp : List String → Stop
  | [] => .help programHelp
  | name :: rest =>
    match ofCommand? name, rest with
    | some k, [] => .help (commandHelp k)
    | some _, other :: _ => .unknownCommand other
    | none, rest =>
      if name = "help" then
        match rest with
        | [] => .help helpHelp
        | other :: _ => .unknownCommand other
      else .unknownCommand name

/-- Reads the arguments in front of a command, and those behind it; `seen` holds the flags given in
front. -/
def readFront (separated : Bool) (seen : List Flag) : List String → Except Stop Invocation
  | [] => .error (if seen.isEmpty then .nothingGiven else .noCommand)
  | argument :: rest =>
    if separated then .error (unfitting .front true argument)
    else
      match shapeOf argument with
      | .separator => readFront true seen rest
      | .long name value => do
        let f ← readLong .front seen name value
        readFront false (seen ++ [f]) rest
      | .short first => .error (readShort .front first)
      | .plain =>
        match ofCommand? argument with
        | some k => do
          let behind ← readBehind k false [] rest
          return ⟨seen ++ behind, k⟩
        | none =>
          .error (if argument = "help" then readHelp rest else unfitting .front false argument)

/-- What the arguments of the program ask for. -/
def Invocation.ofArguments (arguments : List String) : Except Stop Invocation :=
  readFront false [] arguments

end BenchRig.Command
