import Compliance.Category
import Compliance.Classification
import Compliance.CommandLine
import Compliance.Config
import Compliance.Decimal.Shortest
import Compliance.Failure
import Compliance.FileTree
import Compliance.Json.Container
import Compliance.Json.Fault
import Compliance.Json.Literal
import Compliance.Json.Number
import Compliance.Json.Numeral
import Compliance.Json.Record
import Compliance.Json.Scan
import Compliance.Json.Skip
import Compliance.Json.Tree
import Compliance.Json.Typed
import Compliance.Log
import Compliance.Main
import Compliance.Options
import Compliance.Path
import Compliance.Proofs.Collections
import Compliance.Proofs.CommandLine
import Compliance.Proofs.Except
import Compliance.Proofs.FileTree
import Compliance.Proofs.Json.Counting
import Compliance.Proofs.Json.Cut.Basic
import Compliance.Proofs.Json.Cut.Numeral
import Compliance.Proofs.Json.Cut.Record
import Compliance.Proofs.Json.Cut.Value
import Compliance.Proofs.Json.Entries
import Compliance.Proofs.Json.Layout
import Compliance.Proofs.Json.Printing
import Compliance.Proofs.Json.Quoting
import Compliance.Proofs.Json.Refusal
import Compliance.Proofs.Json.Spelling
import Compliance.Proofs.Options
import Compliance.Proofs.Report.Consistent
import Compliance.Proofs.Report.Delivery
import Compliance.Proofs.Report.Formats
import Compliance.Proofs.Report.Headings
import Compliance.Proofs.Report.Legible
import Compliance.Proofs.Report.NotSnapshot
import Compliance.Proofs.Report.RoundTrip
import Compliance.Proofs.Report.Verdict
import Compliance.Proofs.Snapshot.Coverage
import Compliance.Proofs.Snapshot.Cut
import Compliance.Proofs.Snapshot.Document
import Compliance.Proofs.Snapshot.Listed
import Compliance.Proofs.Snapshot.Order
import Compliance.Proofs.Snapshot.Restated
import Compliance.Proofs.Snapshot.Tally
import Compliance.Proofs.Split
import Compliance.Proofs.Text.Bodies
import Compliance.Proofs.Text.Course
import Compliance.Proofs.Text.Fewest
import Compliance.Proofs.Text.Greedy
import Compliance.Proofs.Text.Letters
import Compliance.Proofs.Text.Limit
import Compliance.Proofs.Text.LineEnds
import Compliance.Proofs.Text.Utf8
import Compliance.Proofs.Text.Utf8Order
import Compliance.Proofs.Text.Width
import Compliance.Proofs.Text.Wrap
import Compliance.Proofs.Transport
import Compliance.Report
import Compliance.Report.Advice
import Compliance.Report.Plain
import Compliance.Report.Record
import Compliance.Report.Rendering
import Compliance.Run
import Compliance.Sink
import Compliance.Snapshot
import Compliance.Snapshot.Document
import Compliance.Source
import Compliance.Step
import Compliance.StringMap
import Compliance.StringSet
import Compliance.Summary
import Compliance.Text.Blank
import Compliance.Text.CodeRange
import Compliance.Text.Control
import Compliance.Text.Quoted
import Compliance.Text.Quoted.Table
import Compliance.Text.Utf8
import Compliance.Text.Width
import Compliance.Text.Width.Table
import Compliance.Text.Wrap
import Compliance.Proofs.Settings
import Compliance.Proofs.Report.Trimmed
import Compliance.Proofs.Steps
