import PartsList.Checkpoint.Alignment
import PartsList.Checkpoint.Basic
import PartsList.Checkpoint.File
import PartsList.CommandLine.Options
import PartsList.CommandLine.Program
import PartsList.Csv
import PartsList.Disk.Basic
import PartsList.Disk.Operations
import PartsList.Disk.Resolve
import PartsList.Disk.Walk
import PartsList.Export
import PartsList.Extraction.Anchor
import PartsList.Extraction.Boundary
import PartsList.Extraction.Columns
import PartsList.Extraction.Document
import PartsList.Extraction.Drawing
import PartsList.Extraction.Library
import PartsList.Extraction.Pipeline
import PartsList.Extraction.Rows
import PartsList.Extraction.Validation
import PartsList.Geometry.Box
import PartsList.Geometry.Page
import PartsList.Job.Channel
import PartsList.Job.Launch
import PartsList.Job.Manager
import PartsList.Job.Message
import PartsList.Job.Record
import PartsList.Job.Report
import PartsList.Job.Routing
import PartsList.Job.Run
import PartsList.Job.Shared
import PartsList.Job.System
import PartsList.Job.Worker
import PartsList.Job.Writer
import PartsList.Json.Decode
import PartsList.Json.Printer
import PartsList.Json.Reader
import PartsList.Json.Value
import PartsList.Log.Basic
import PartsList.Log.Directive
import PartsList.Log.Filter
import PartsList.Log.Pattern
import PartsList.Main
import PartsList.Number.Binary
import PartsList.Number.Hexadecimal
import PartsList.Number.Numeral
import PartsList.Number.Scalar
import PartsList.Number.Shortest
import PartsList.Number.Word
import PartsList.Path
import PartsList.Plan
import PartsList.Result.Basic
import PartsList.Result.ErrorCode
import PartsList.Result.Line
import PartsList.Selection
import PartsList.Settings.Basic
import PartsList.Settings.File
import PartsList.Settings.Layout
import PartsList.Settings.Record
import PartsList.Sha256
import PartsList.Spill
import PartsList.Store.Address
import PartsList.Store.Basic
import PartsList.Store.Database
import PartsList.Store.File
import PartsList.Store.Image
import PartsList.Store.Record
import PartsList.Supervisor
import PartsList.Text.AlphanumericTable
import PartsList.Text.CaseTable
import PartsList.Text.CharClass
import PartsList.Text.Keyword
import PartsList.Text.Lowercase
import PartsList.Text.Utf8
import PartsList.Text.WordTable
import PartsList.Timestamp
import PartsList.Toml.Numbers
import PartsList.Toml.Reader
import PartsList.Toml.Strings
import PartsList.Toml.Tables
import PartsList.Proofs.Basic
import PartsList.Proofs.Checkpoint.Agreement
import PartsList.Proofs.Checkpoint.Atomicity
import PartsList.Proofs.Checkpoint.Lines
import PartsList.Proofs.Checkpoint.Partition
import PartsList.Proofs.Checkpoint.Reading
import PartsList.Proofs.Checkpoint.RoundTrip
import PartsList.Proofs.Checkpoint.Saves
import PartsList.Proofs.Checkpoint.Sets
import PartsList.Proofs.Csv.RoundTrip
import PartsList.Proofs.Disk.Development
import PartsList.Proofs.Disk.Listing
import PartsList.Proofs.Disk.Missing
import PartsList.Proofs.Disk.Opening
import PartsList.Proofs.Disk.Replacing
import PartsList.Proofs.Export.Columns
import PartsList.Proofs.Export.Records
import PartsList.Proofs.Extraction.Bands
import PartsList.Proofs.Extraction.Columns
import PartsList.Proofs.Extraction.Emission
import PartsList.Proofs.Extraction.Grouping
import PartsList.Proofs.Extraction.Header
import PartsList.Proofs.Extraction.Jitter
import PartsList.Proofs.Extraction.Outcomes
import PartsList.Proofs.Extraction.Pages
import PartsList.Proofs.Extraction.Placement
import PartsList.Proofs.Extraction.Positions
import PartsList.Proofs.Extraction.Region
import PartsList.Proofs.Extraction.Stability
import PartsList.Proofs.Extraction.Tables
import PartsList.Proofs.Extraction.Terminator
import PartsList.Proofs.Extraction.Tolerance
import PartsList.Proofs.Job.Acceptance
import PartsList.Proofs.Job.Acts
import PartsList.Proofs.Job.Arrangement
import PartsList.Proofs.Job.Batching
import PartsList.Proofs.Job.Chronicle
import PartsList.Proofs.Job.Closing
import PartsList.Proofs.Job.Completion
import PartsList.Proofs.Job.Concurrency
import PartsList.Proofs.Job.Conservation
import PartsList.Proofs.Job.Consistency
import PartsList.Proofs.Job.Deeds
import PartsList.Proofs.Job.Durability
import PartsList.Proofs.Job.Finality
import PartsList.Proofs.Job.Forecast
import PartsList.Proofs.Job.Foretelling
import PartsList.Proofs.Job.Fulfilling
import PartsList.Proofs.Job.Handling
import PartsList.Proofs.Job.Ledger
import PartsList.Proofs.Job.Lifecycle
import PartsList.Proofs.Job.Lifetime
import PartsList.Proofs.Job.Lineages
import PartsList.Proofs.Job.Marking
import PartsList.Proofs.Job.Moves
import PartsList.Proofs.Job.Posting
import PartsList.Proofs.Job.Prediction
import PartsList.Proofs.Job.Protocol
import PartsList.Proofs.Job.Reconciling
import PartsList.Proofs.Job.Restraint
import PartsList.Proofs.Job.Results
import PartsList.Proofs.Job.Resumption
import PartsList.Proofs.Job.Retries
import PartsList.Proofs.Job.Routing
import PartsList.Proofs.Job.Safekeeping
import PartsList.Proofs.Job.Saving
import PartsList.Proofs.Job.Sequence
import PartsList.Proofs.Job.Situation
import PartsList.Proofs.Job.Sparing
import PartsList.Proofs.Job.Staffing
import PartsList.Proofs.Job.Stages
import PartsList.Proofs.Job.Standing
import PartsList.Proofs.Job.Starting
import PartsList.Proofs.Job.Strides
import PartsList.Proofs.Job.Validation
import PartsList.Proofs.Job.Working
import PartsList.Proofs.Job.Writing
import PartsList.Proofs.Json.Cut
import PartsList.Proofs.Json.Pretty
import PartsList.Proofs.Json.RoundTrip
import PartsList.Proofs.Json.Torn
import PartsList.Proofs.Number.Arithmetic
import PartsList.Proofs.Number.Comparison
import PartsList.Proofs.Number.Numeral
import PartsList.Proofs.Number.Place
import PartsList.Proofs.Number.Rounding
import PartsList.Proofs.Path.Ancestors
import PartsList.Proofs.Path.Order
import PartsList.Proofs.Plan.Budgets
import PartsList.Proofs.Plan.Limits
import PartsList.Proofs.Result.RoundTrip
import PartsList.Proofs.Selection.Paging
import PartsList.Proofs.Sorting
import PartsList.Proofs.Spill.Abstaining
import PartsList.Proofs.Spill.Appending
import PartsList.Proofs.Spill.Emptying
import PartsList.Proofs.Spill.Evaluation
import PartsList.Proofs.Spill.Holding
import PartsList.Proofs.Spill.Interruption
import PartsList.Proofs.Spill.Lines
import PartsList.Proofs.Spill.Replay
import PartsList.Proofs.Spill.Survival
import PartsList.Proofs.Spill.Tearing
import PartsList.Proofs.Store.Answers
import PartsList.Proofs.Store.Confinement
import PartsList.Proofs.Store.Connecting
import PartsList.Proofs.Store.Damage
import PartsList.Proofs.Store.Delivery
import PartsList.Proofs.Store.LastDelivery
import PartsList.Proofs.Store.Loading
import PartsList.Proofs.Store.Reopening
import PartsList.Proofs.Store.Repetition
import PartsList.Proofs.Store.RowCounts
import PartsList.Proofs.Supervisor.Histories
import PartsList.Proofs.Text.Keyword
import PartsList.Proofs.Text.Utf8
import PartsList.Proofs.Timestamp.RoundTrip
