import Rehearsal.Batch
import Rehearsal.BatchReport
import Rehearsal.Bytes
import Rehearsal.Checked
import Rehearsal.CommandLine.Execution
import Rehearsal.CommandLine.Options
import Rehearsal.CommandLine.Overrides
import Rehearsal.CommandLine.Parser
import Rehearsal.CommandText
import Rehearsal.Comparator
import Rehearsal.Config
import Rehearsal.Config.Environment
import Rehearsal.Config.Example
import Rehearsal.Config.Field
import Rehearsal.Config.Load
import Rehearsal.Config.Toml
import Rehearsal.Cursor
import Rehearsal.Duration
import Rehearsal.Files.Store
import Rehearsal.Files.Tree
import Rehearsal.Host
import Rehearsal.IoError
import Rehearsal.Json
import Rehearsal.Judgement
import Rehearsal.Limits
import Rehearsal.Log
import Rehearsal.Machine.Conversation
import Rehearsal.Machine.Pipe
import Rehearsal.Machine.Process
import Rehearsal.Machine.Program
import Rehearsal.Machine.Signal
import Rehearsal.Machine.Tool
import Rehearsal.Machine.Tool.ByteSet
import Rehearsal.Machine.Tool.Condition
import Rehearsal.Machine.Tool.Counts
import Rehearsal.Machine.Tool.Display
import Rehearsal.Machine.Tool.Filter
import Rehearsal.Machine.Tool.Options
import Rehearsal.Machine.Tool.Start
import Rehearsal.Machine.Tool.Step
import Rehearsal.Machine.Tool.Summary
import Rehearsal.Main
import Rehearsal.Number.Binary64
import Rehearsal.Number.Literal
import Rehearsal.Number.Rounding
import Rehearsal.Number.Text
import Rehearsal.Outcome
import Rehearsal.Path
import Rehearsal.Proofs.Batch
import Rehearsal.Proofs.Batch.Output
import Rehearsal.Proofs.Batch.Success
import Rehearsal.Proofs.BatchReport
import Rehearsal.Proofs.CommandLine.Execution
import Rehearsal.Proofs.CommandLine.Init
import Rehearsal.Proofs.CommandLine.Program
import Rehearsal.Proofs.CommandLine.Words
import Rehearsal.Proofs.CommandText
import Rehearsal.Proofs.Comparison
import Rehearsal.Proofs.Comparison.Echo
import Rehearsal.Proofs.Comparison.Record
import Rehearsal.Proofs.Config.Environment
import Rehearsal.Proofs.Config.Field
import Rehearsal.Proofs.Config.Load
import Rehearsal.Proofs.Cursor
import Rehearsal.Proofs.Duration
import Rehearsal.Proofs.Except
import Rehearsal.Proofs.Files.Directories
import Rehearsal.Proofs.Files.Store
import Rehearsal.Proofs.Files.Tree
import Rehearsal.Proofs.Json.Grammar
import Rehearsal.Proofs.Json.Printing
import Rehearsal.Proofs.Judgement
import Rehearsal.Proofs.Judgement.Reason
import Rehearsal.Proofs.Judgement.Skipped
import Rehearsal.Proofs.Lines
import Rehearsal.Proofs.Number.Binary64
import Rehearsal.Proofs.Number.Rounding
import Rehearsal.Proofs.Path
import Rehearsal.Proofs.Path.Parent
import Rehearsal.Proofs.Separated
import Rehearsal.Proofs.Session.AnySink
import Rehearsal.Proofs.Session.Input
import Rehearsal.Proofs.Session.Limits
import Rehearsal.Proofs.Session.MismatchReport
import Rehearsal.Proofs.Session.Reads
import Rehearsal.Proofs.Session.Run
import Rehearsal.Proofs.Session.Transcript
import Rehearsal.Proofs.Session.Verdict
import Rehearsal.Proofs.Style
import Rehearsal.Proofs.Style.Summary
import Rehearsal.Proofs.Testcase
import Rehearsal.Proofs.Text.Digits
import Rehearsal.Proofs.Text.Order
import Rehearsal.Proofs.Text.Quoted
import Rehearsal.Proofs.Text.Quoted.Reading
import Rehearsal.Proofs.Text.Utf8
import Rehearsal.Regex.CharSet
import Rehearsal.Regex.Expression
import Rehearsal.Regex.Fault
import Rehearsal.Regex.Matching
import Rehearsal.Regex.Meaning
import Rehearsal.Regex.Reader
import Rehearsal.Runner
import Rehearsal.Session
import Rehearsal.Shell.Arithmetic
import Rehearsal.Shell.Builtin
import Rehearsal.Shell.Builtin.Control
import Rehearsal.Shell.Builtin.Jobs
import Rehearsal.Shell.Builtin.Reply
import Rehearsal.Shell.Builtin.Signals
import Rehearsal.Shell.Builtin.Surroundings
import Rehearsal.Shell.Builtin.Variables
import Rehearsal.Shell.Command
import Rehearsal.Shell.Condition
import Rehearsal.Shell.Expansion
import Rehearsal.Shell.FileNames
import Rehearsal.Shell.Grammar
import Rehearsal.Shell.InputLine
import Rehearsal.Shell.Lookup
import Rehearsal.Shell.Memory
import Rehearsal.Shell.Numeral
import Rehearsal.Shell.Options
import Rehearsal.Shell.Pattern
import Rehearsal.Shell.Printing
import Rehearsal.Shell.Printing.Format
import Rehearsal.Shell.Printing.Integer
import Rehearsal.Shell.Printing.Scalar
import Rehearsal.Shell.Quoting
import Rehearsal.Shell.Redirection
import Rehearsal.Shell.Source
import Rehearsal.Shell.Start
import Rehearsal.Shell.Step
import Rehearsal.Shell.Task
import Rehearsal.Shell.Unwinding
import Rehearsal.Shell.Word
import Rehearsal.Sink
import Rehearsal.Style
import Rehearsal.Testcase
import Rehearsal.Text.Quoted
import Rehearsal.Text.Unshown
import Rehearsal.Text.Utf8
import Rehearsal.Toml.Document
import Rehearsal.Toml.Reader
import Rehearsal.Toml.Value
import Rehearsal.Verdict
