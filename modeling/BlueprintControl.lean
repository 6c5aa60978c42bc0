import BlueprintControl.CommandLine.Command
import BlueprintControl.CommandLine.Host
import BlueprintControl.CommandLine.Program
import BlueprintControl.CommandLine.Reader
import BlueprintControl.Config.Check
import BlueprintControl.Config.Environment
import BlueprintControl.Config.Settings
import BlueprintControl.Config.Source
import BlueprintControl.Controller.Run
import BlueprintControl.Controller.State
import BlueprintControl.Controller.Summary
import BlueprintControl.Controller.TimedRun
import BlueprintControl.Controller.Trigger
import BlueprintControl.Domain.Axis
import BlueprintControl.Domain.Blueprint
import BlueprintControl.Domain.Condition
import BlueprintControl.Domain.Diff
import BlueprintControl.Domain.Event
import BlueprintControl.Domain.Failure
import BlueprintControl.Domain.Lifecycle
import BlueprintControl.Domain.Log
import BlueprintControl.Domain.Operation
import BlueprintControl.Dotenv.Entry
import BlueprintControl.Dotenv.Line
import BlueprintControl.Dotenv.Value
import BlueprintControl.Files.Look
import BlueprintControl.Files.Path
import BlueprintControl.Files.Tree
import BlueprintControl.Json.Access
import BlueprintControl.Json.Format
import BlueprintControl.Json.Number
import BlueprintControl.Json.Reader
import BlueprintControl.Json.Token
import BlueprintControl.Json.Value
import BlueprintControl.Json.Writer
import BlueprintControl.Keyed
import BlueprintControl.Main
import BlueprintControl.Output.Paint
import BlueprintControl.Output.Printer
import BlueprintControl.Output.Table
import BlueprintControl.Policy.Actions
import BlueprintControl.Policy.Requeue
import BlueprintControl.Proofs.CommandLine.Verdicts
import BlueprintControl.Proofs.Config.Delays
import BlueprintControl.Proofs.Config.Requirements
import BlueprintControl.Proofs.Config.Search
import BlueprintControl.Proofs.Controller.Coalescing
import BlueprintControl.Proofs.Controller.Debouncers
import BlueprintControl.Proofs.Controller.Debt
import BlueprintControl.Proofs.Controller.Exclusion
import BlueprintControl.Proofs.Controller.Frame
import BlueprintControl.Proofs.Controller.Isolation
import BlueprintControl.Proofs.Controller.Locality
import BlueprintControl.Proofs.Controller.Retries
import BlueprintControl.Proofs.Controller.SingleTimer
import BlueprintControl.Proofs.Controller.Statistics
import BlueprintControl.Proofs.Controller.Stuck
import BlueprintControl.Proofs.Controller.Timers
import BlueprintControl.Proofs.Domain.Applied
import BlueprintControl.Proofs.Domain.ChangeLog
import BlueprintControl.Proofs.Domain.Conditions
import BlueprintControl.Proofs.Domain.ConfigEvents
import BlueprintControl.Proofs.Domain.Counts
import BlueprintControl.Proofs.Domain.DecisionTable
import BlueprintControl.Proofs.Domain.Diff
import BlueprintControl.Proofs.Domain.Frame
import BlueprintControl.Proofs.Domain.Lanes
import BlueprintControl.Proofs.Domain.Operations
import BlueprintControl.Proofs.Domain.Repetition
import BlueprintControl.Proofs.Domain.Rest
import BlueprintControl.Proofs.Domain.Stickiness
import BlueprintControl.Proofs.Domain.Undetermined
import BlueprintControl.Proofs.Domain.Written
import BlueprintControl.Proofs.Files.Names
import BlueprintControl.Proofs.Files.Places
import BlueprintControl.Proofs.Files.Walks
import BlueprintControl.Proofs.Json.RoundTrip
import BlueprintControl.Proofs.Json.Tokens
import BlueprintControl.Proofs.Policy.Actions
import BlueprintControl.Proofs.Policy.Markers
import BlueprintControl.Proofs.Policy.Offences
import BlueprintControl.Proofs.Keyed
import BlueprintControl.Proofs.Reconcile.Calls
import BlueprintControl.Proofs.Reconcile.Closing
import BlueprintControl.Proofs.Reconcile.Convergence
import BlueprintControl.Proofs.Reconcile.Course
import BlueprintControl.Proofs.Reconcile.FirstFailure
import BlueprintControl.Proofs.Reconcile.Gate
import BlueprintControl.Proofs.Reconcile.Import
import BlueprintControl.Proofs.Reconcile.Inquiry
import BlueprintControl.Proofs.Reconcile.Mirror
import BlueprintControl.Proofs.Reconcile.Moves
import BlueprintControl.Proofs.Reconcile.Persistence
import BlueprintControl.Proofs.Reconcile.Publication
import BlueprintControl.Proofs.Reconcile.Rejection
import BlueprintControl.Proofs.Reconcile.Replay
import BlueprintControl.Proofs.Reconcile.Repository
import BlueprintControl.Proofs.Reconcile.Smooth
import BlueprintControl.Proofs.Reconcile.Steady
import BlueprintControl.Proofs.Reconcile.Steps
import BlueprintControl.Proofs.Reconcile.Trace
import BlueprintControl.Proofs.Reconcile.Undetermined
import BlueprintControl.Proofs.Scheduling.BackoffKeys
import BlueprintControl.Proofs.Scheduling.Debounce
import BlueprintControl.Proofs.Scheduling.DebounceKeys
import BlueprintControl.Proofs.Scheduling.Doubling
import BlueprintControl.Proofs.Scheduling.History
import BlueprintControl.Proofs.Schema.Reading
import BlueprintControl.Proofs.Schema.Spelling
import BlueprintControl.Proofs.Store.Catalogue
import BlueprintControl.Proofs.Store.Commits
import BlueprintControl.Proofs.Store.Documents
import BlueprintControl.Proofs.Store.FailedWrites
import BlueprintControl.Proofs.Store.History
import BlueprintControl.Proofs.Store.Latch
import BlueprintControl.Proofs.Store.Listing
import BlueprintControl.Proofs.Store.Loaded
import BlueprintControl.Proofs.Store.Memory
import BlueprintControl.Proofs.Store.Reachable
import BlueprintControl.Proofs.Store.Record
import BlueprintControl.Proofs.Store.Repeats
import BlueprintControl.Proofs.Store.WriteBack
import BlueprintControl.Proofs.Store.Writing
import BlueprintControl.Proofs.Text.Lowercase
import BlueprintControl.Proofs.Time.Stamp
import BlueprintControl.Proofs.Uuid
import BlueprintControl.Reconcile.Call
import BlueprintControl.Reconcile.Collaborators
import BlueprintControl.Reconcile.Evaluation
import BlueprintControl.Reconcile.Pass
import BlueprintControl.Reconcile.Rehearsal
import BlueprintControl.Reconcile.Report
import BlueprintControl.Reconcile.Stored
import BlueprintControl.Reconcile.Task
import BlueprintControl.Scheduling.Backoff
import BlueprintControl.Scheduling.Debounce
import BlueprintControl.Schema.Fault
import BlueprintControl.Schema.Format
import BlueprintControl.Store.Digest
import BlueprintControl.Store.Document
import BlueprintControl.Store.Place
import BlueprintControl.Store.Record
import BlueprintControl.Store.Repository
import BlueprintControl.Store.Session
import BlueprintControl.Store.Writing
import BlueprintControl.Text.Alphanumeric
import BlueprintControl.Text.Blank
import BlueprintControl.Text.CaseTable
import BlueprintControl.Text.Double
import BlueprintControl.Text.Lowercase
import BlueprintControl.Text.Printable
import BlueprintControl.Text.Quoted
import BlueprintControl.Text.Ranges
import BlueprintControl.Text.Width
import BlueprintControl.Text.WidthTable
import BlueprintControl.Time.Moment
import BlueprintControl.Time.Span
import BlueprintControl.Time.Stamp
import BlueprintControl.Time.StampReader
import BlueprintControl.Uuid
import BlueprintControl.Yaml.Cursor
import BlueprintControl.Yaml.Format
import BlueprintControl.Yaml.Gap
import BlueprintControl.Yaml.Lexer
import BlueprintControl.Yaml.Meaning
import BlueprintControl.Yaml.Node
import BlueprintControl.Yaml.Property
import BlueprintControl.Yaml.Scalar
import BlueprintControl.Yaml.Token
import BlueprintControl.Yaml.Tree
