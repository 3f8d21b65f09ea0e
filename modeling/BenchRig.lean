import BenchRig.Codec.Log
import BenchRig.Codec.Plan
import BenchRig.Codec.Result
import BenchRig.Http.Exchange
import BenchRig.Main
import BenchRig.Memory.Heap
import BenchRig.Program
import BenchRig.Url.Request
import BenchRig.Proofs.Memory.History
import BenchRig.Proofs.Memory.Sampling
import BenchRig.Proofs.Pool.Moves
import BenchRig.Proofs.Pool.Steps
import BenchRig.Proofs.Pool.Replay
import BenchRig.Proofs.Pool.Life
import BenchRig.Proofs.Pool.Collection
import BenchRig.Proofs.Pool.Chronicle
import BenchRig.Proofs.Pool.Run
import BenchRig.Proofs.Result.Accounting
import BenchRig.Proofs.Pool.Schedule
import BenchRig.Proofs.Pool.Conservation
import BenchRig.Proofs.Pool.Verdict
import BenchRig.Proofs.Pool.Worker
import BenchRig.Proofs.Result.Tally
import BenchRig.Proofs.Pool.Fetching
import BenchRig.Proofs.Pool.Script
import BenchRig.Proofs.Pool.Building
import BenchRig.Proofs.Pool.Story
import BenchRig.Proofs.Pool.Notes
import BenchRig.Proofs.Pool.Journal
import BenchRig.Proofs.Pool.Watch
import BenchRig.Proofs.Report.Transcript
import BenchRig.Proofs.Ansi.Strip
import BenchRig.Proofs.Ansi.Decoration
import BenchRig.Proofs.Json.Numeral
import BenchRig.Proofs.Json.Text
import BenchRig.Proofs.Json.Scan
import BenchRig.Proofs.Json.Reads
import BenchRig.Proofs.Codec.RoundTrip
import BenchRig.Proofs.Pool.Admission
import BenchRig.Proofs.Decimal.Padded
import BenchRig.Proofs.Decimal.Spelling
import BenchRig.Proofs.Log.Family
import BenchRig.Proofs.Log.Timestamp
import BenchRig.Proofs.Json.Framing
import BenchRig.Proofs.Json.Nesting
import BenchRig.Proofs.Log.Fields
import BenchRig.Proofs.Log.Line
import BenchRig.Proofs.Report.Flow
import BenchRig.Micro.Overflow
import BenchRig.Proofs.Micro.LastDigits
import BenchRig.Proofs.Pool.Counting
import BenchRig.Proofs.Result.Samples
import BenchRig.Proofs.Decimal.Exact
import BenchRig.Proofs.Decimal.Fixed
import BenchRig.Proofs.Report.Elapsed
import BenchRig.Proofs.Decimal.Conversion
import BenchRig.Proofs.Report.Megabytes
import BenchRig.Proofs.Report.Buffer
import BenchRig.Proofs.Micro.Suite
import BenchRig.Proofs.Command.Placement
import BenchRig.Proofs.Pool.Abandonment
import BenchRig.Proofs.Plan.Refusal
import BenchRig.Proofs.Text.Order
import BenchRig.Proofs.Log.Console
import BenchRig.Proofs.Log.Words
import BenchRig.Proofs.Report.Clamp
