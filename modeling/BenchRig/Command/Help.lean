import BenchRig.Command.Invocation

/-!
# Help

What the program says about itself.
-/

namespace BenchRig.Command

/-- The name of the program. -/
def programName : String := "rtbench"

/-- The version of the program. -/
def programVersion : String := "0.1.0"

/-- What the program is for. -/
def about : String :=
  "Micro-benchmarks and worker spawn-throughput benchmarks for measuring raw runtime performance"

/-- What a command does. -/
def commandAbout : Kind → String
  | .micro => "Six single-threaded micro workloads"
  | .spawn => "Spawn 1000 CPU-bound workers and wait for all of them"
  | .spawnOnly => "Spawn 1000 CPU-bound workers and time submission only"
  | .fetch => "1000 workers, 5 requests each, against httpbin.org/delay/1"
  | .fetchLite => "100 workers, 5 requests each, against httpbin.org/delay/1"
  | .fetchLiteMemory => "Same as fetch-lite, plus peak memory"

/-- What the command `help` does. -/
def helpAbout : String := "Print this message or the help of the given subcommand(s)"

/-- What a flag does. -/
def flagAbout : Flag → String
  | .color => "Force colored output"
  | .noColor => "Disable colored output"
  | .verbose => "Log pool and worker progress to stderr"
  | .debug => "Log everything to stderr as JSON, with build information"

/-- A text filled up with blanks on the right. -/
def padded (width : Nat) (s : String) : String :=
  s ++ String.ofList (List.replicate (width - s.length) ' ')

/-- The lines about commands. -/
def commandLines : List String :=
  (Kind.all.map fun k => "  " ++ padded 19 (commandName k) ++ commandAbout k)
    ++ ["  " ++ padded 19 "help" ++ helpAbout]

/-- The lines about flags. -/
def flagLines : List String :=
  (Flag.all.map fun f => "      --" ++ padded 10 f.name ++ flagAbout f)
    ++ ["  -h, --" ++ padded 10 "help" ++ "Print help"]

/-- Lines as a text. -/
def unlines (lines : List String) : String := String.join (lines.map (· ++ "\n"))

/-- What the program says about itself. -/
def programHelp : String :=
  unlines ([about, "", "Usage: " ++ programName ++ " [OPTIONS] <COMMAND>", "", "Commands:"]
    ++ commandLines ++ ["", "Options:"] ++ flagLines
    ++ ["  -V, --" ++ padded 10 "version" ++ "Print version"])

/-- What the program says about a command. -/
def commandHelp (k : Kind) : String :=
  unlines ([commandAbout k, "", "Usage: " ++ programName ++ " " ++ commandName k ++ " [OPTIONS]",
    "", "Options:"] ++ flagLines)

/-- What the program says about the command `help`. -/
def helpHelp : String :=
  unlines [helpAbout, "", "Usage: " ++ programName ++ " help [COMMAND]...", "", "Arguments:",
    "  [COMMAND]...  Print help for the subcommand(s)"]

/-- What the program says about its version. -/
def versionText : String := programName ++ " " ++ programVersion ++ "\n"

end BenchRig.Command
