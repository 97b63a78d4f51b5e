import Testbook.Action
import Testbook.Action.Log
import Testbook.Action.Sanitized
import Testbook.Answer.Basic
import Testbook.Answer.Plain
import Testbook.Answer.Written
import Testbook.Attachment
import Testbook.BackendKind
import Testbook.Base64
import Testbook.Build
import Testbook.CommandLine.Grammar
import Testbook.CommandLine.Invocation
import Testbook.CommandLine.Reader
import Testbook.Context
import Testbook.Decimal
import Testbook.Directory
import Testbook.Document.Reader
import Testbook.Document.Written
import Testbook.Environment
import Testbook.Error
import Testbook.Feature
import Testbook.Feature.Reader
import Testbook.FilePath
import Testbook.Fingerprint
import Testbook.First
import Testbook.Folders
import Testbook.Hexadecimal
import Testbook.IdSource
import Testbook.IdSource.Random
import Testbook.Instant.Basic
import Testbook.Instant.Calendar
import Testbook.Instant.Reader
import Testbook.Instant.Written
import Testbook.Json.Basic
import Testbook.Json.Printer
import Testbook.Json.Reader
import Testbook.Json.Shortest
import Testbook.Json.Tree
import Testbook.Kdl.Basic
import Testbook.Kdl.Reader
import Testbook.Kdl.Space
import Testbook.Kdl.Text
import Testbook.Main
import Testbook.MediaType
import Testbook.Outcome
import Testbook.OutputFormat
import Testbook.Program
import Testbook.Program.Reach
import Testbook.Project
import Testbook.Project.Features
import Testbook.Project.Runs
import Testbook.Proofs.Action.Log
import Testbook.Proofs.Action.ReadBack
import Testbook.Proofs.Action.Sanitized
import Testbook.Proofs.Cut
import Testbook.Proofs.Decimal
import Testbook.Proofs.Directory
import Testbook.Proofs.Directory.Clear
import Testbook.Proofs.Directory.Way
import Testbook.Proofs.Document.Fits
import Testbook.Proofs.Document.RoundTrip
import Testbook.Proofs.Except
import Testbook.Proofs.Feature.Grammar
import Testbook.Proofs.Feature.Ids
import Testbook.Proofs.Feature.Layout
import Testbook.Proofs.Feature.LineByLine
import Testbook.Proofs.Feature.Numbering
import Testbook.Proofs.Feature.Reader
import Testbook.Proofs.Feature.Renamed
import Testbook.Proofs.Feature.ScenarioOutline
import Testbook.Proofs.FilePath
import Testbook.Proofs.First
import Testbook.Proofs.IdSource
import Testbook.Proofs.Instant.Calendar
import Testbook.Proofs.Instant.Order
import Testbook.Proofs.Instant.Stamp
import Testbook.Proofs.Json.Exact
import Testbook.Proofs.Json.Extent
import Testbook.Proofs.Json.Layout
import Testbook.Proofs.Json.Line
import Testbook.Proofs.Json.Numeral
import Testbook.Proofs.Json.ReadBack
import Testbook.Proofs.Json.Steps
import Testbook.Proofs.Json.Text
import Testbook.Proofs.Json.Torn
import Testbook.Proofs.Json.Value
import Testbook.Proofs.Kdl.Line
import Testbook.Proofs.Operation
import Testbook.Proofs.Pairwise
import Testbook.Proofs.Program.Accounted
import Testbook.Proofs.Project.Listed
import Testbook.Proofs.Project.OneOpen
import Testbook.Proofs.Project.Reset
import Testbook.Proofs.Project.Runs
import Testbook.Proofs.Project.Upload
import Testbook.Proofs.Report.Comparison
import Testbook.Proofs.Report.History
import Testbook.Proofs.Report.Markdown
import Testbook.Proofs.Report.Mirrored
import Testbook.Proofs.Report.Newest
import Testbook.Proofs.Report.Versions
import Testbook.Proofs.Request.Failure
import Testbook.Proofs.Request.Note
import Testbook.Proofs.Request.Reports
import Testbook.Proofs.Request.Spares
import Testbook.Proofs.Run.Annotation
import Testbook.Proofs.Run.Bulk
import Testbook.Proofs.Run.Calls
import Testbook.Proofs.Run.Edited
import Testbook.Proofs.Run.Evidence
import Testbook.Proofs.Run.Independent
import Testbook.Proofs.Run.Marks
import Testbook.Proofs.Run.Move
import Testbook.Proofs.Run.Outline
import Testbook.Proofs.Run.Place
import Testbook.Proofs.Run.Status
import Testbook.Proofs.Session
import Testbook.Proofs.Settings.File
import Testbook.Proofs.Settings.Resolved
import Testbook.Proofs.Settings.Words
import Testbook.Proofs.Settings.Written
import Testbook.Proofs.Sorted
import Testbook.Proofs.Store.Agreement
import Testbook.Proofs.Store.Backend
import Testbook.Proofs.Store.Compaction
import Testbook.Proofs.Store.Current
import Testbook.Proofs.Store.Effect
import Testbook.Proofs.Store.Failure
import Testbook.Proofs.Store.Fits
import Testbook.Proofs.Store.Forgotten
import Testbook.Proofs.Store.Frozen
import Testbook.Proofs.Store.Grounded
import Testbook.Proofs.Store.Identity
import Testbook.Proofs.Store.Lasting
import Testbook.Proofs.Store.Locality
import Testbook.Proofs.Store.Log
import Testbook.Proofs.Store.Memory
import Testbook.Proofs.Store.OneOpen
import Testbook.Proofs.Store.Progress
import Testbook.Proofs.Store.Ready
import Testbook.Proofs.Store.Reset
import Testbook.Proofs.Store.Shelf
import Testbook.Proofs.Store.Torn
import Testbook.Proofs.Store.Transfer
import Testbook.Proofs.Store.Upload
import Testbook.Proofs.Store.Writes
import Testbook.Proofs.Text.Blank
import Testbook.Proofs.Text.Line
import Testbook.Proofs.Text.Part
import Testbook.Report.Comparison
import Testbook.Report.History
import Testbook.Report.Markdown
import Testbook.Request.Basic
import Testbook.Request.Performed
import Testbook.Run
import Testbook.Run.Lifecycle
import Testbook.Run.Status
import Testbook.Scenario
import Testbook.Session
import Testbook.Settings.Basic
import Testbook.Settings.File
import Testbook.Settings.Resolved
import Testbook.Store.Backend
import Testbook.Store.Basic
import Testbook.Store.Features
import Testbook.Store.Log
import Testbook.Store.Runs
import Testbook.Store.Shelf
import Testbook.Store.Table
import Testbook.Store.TableFile
import Testbook.Target
import Testbook.Text.Blank
import Testbook.Text.Line
import Testbook.Text.Lowercase
import Testbook.Variables
