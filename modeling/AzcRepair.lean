import AzcRepair.Access.Cache
import AzcRepair.Access.CliOutput
import AzcRepair.Access.Expiry
import AzcRepair.Access.Source
import AzcRepair.Access.Token
import AzcRepair.Agents.Client
import AzcRepair.Agents.Listing
import AzcRepair.Agents.Object
import AzcRepair.Agents.Service
import AzcRepair.Backoff
import AzcRepair.Calendar
import AzcRepair.CommandLine
import AzcRepair.Contract
import AzcRepair.Contract.Block
import AzcRepair.Contract.Reply
import AzcRepair.Conversation
import AzcRepair.Disk
import AzcRepair.Execution
import AzcRepair.FileTree
import AzcRepair.FileTree.Listing
import AzcRepair.Http
import AzcRepair.Http.Address
import AzcRepair.Http.Host
import AzcRepair.Interrupt
import AzcRepair.Json
import AzcRepair.Json.Decode
import AzcRepair.Json.Fault
import AzcRepair.Json.Number
import AzcRepair.Json.Reader
import AzcRepair.Json.Text
import AzcRepair.Json.Writer
import AzcRepair.Logging
import AzcRepair.Main
import AzcRepair.Outcome
import AzcRepair.Outcome.Summary
import AzcRepair.Path
import AzcRepair.Procedure
import AzcRepair.Program
import AzcRepair.Request
import AzcRepair.Run
import AzcRepair.Run.Call
import AzcRepair.Run.Served
import AzcRepair.Scripted.Machine
import AzcRepair.Scripted.Queue
import AzcRepair.Scripted.Shell
import AzcRepair.Scripted.Shell.Arithmetic
import AzcRepair.Scripted.Shell.Builtin
import AzcRepair.Scripted.Shell.Condition
import AzcRepair.Scripted.Shell.Evaluation
import AzcRepair.Scripted.Shell.Expansion
import AzcRepair.Scripted.Shell.Pattern
import AzcRepair.Scripted.Shell.Printing
import AzcRepair.Scripted.Shell.Reader
import AzcRepair.Scripted.Shell.State
import AzcRepair.Scripted.Shell.Syntax
import AzcRepair.Scripted.Shell.Token
import AzcRepair.Scripted.Shell.Tool
import AzcRepair.Scripted.Shell.Tool.Files
import AzcRepair.Scripted.Shell.Tool.Filters
import AzcRepair.Scripted.Shell.Tool.Search
import AzcRepair.Scripted.Toolchain
import AzcRepair.Scripted.Worker
import AzcRepair.Scripted.World
import AzcRepair.Settings
import AzcRepair.Settings.Check
import AzcRepair.Settings.Environment
import AzcRepair.Settings.Layer
import AzcRepair.Settings.Load
import AzcRepair.Strategy
import AzcRepair.Strategy.Instruction
import AzcRepair.Text.Blank
import AzcRepair.Text.Column
import AzcRepair.Text.Digit
import AzcRepair.Text.Emoji
import AzcRepair.Text.Extending
import AzcRepair.Text.Float
import AzcRepair.Text.Letters
import AzcRepair.Text.Lines
import AzcRepair.Text.Numeral
import AzcRepair.Text.Printable
import AzcRepair.Text.Quoted
import AzcRepair.Text.Ranges
import AzcRepair.Text.Replace
import AzcRepair.Text.Similarity
import AzcRepair.Text.Styled
import AzcRepair.Text.Table
import AzcRepair.Text.Utf8
import AzcRepair.Text.Width
import AzcRepair.Text.Word
import AzcRepair.Toolchain
import AzcRepair.Toolchain.Project
import AzcRepair.Toolchain.Tools
import AzcRepair.Violation
import AzcRepair.Violation.Extract
import AzcRepair.Violation.Marker
import AzcRepair.Worker.Failure
import AzcRepair.Worker.Form
import AzcRepair.Worker.Job
import AzcRepair.Worker.Service
import AzcRepair.Worker.Session
import AzcRepair.Workspace
import AzcRepair.Yaml.Cursor
import AzcRepair.Yaml.Node
import AzcRepair.Yaml.Scalar
import AzcRepair.Yaml.Token
import AzcRepair.Yaml.Value
import AzcRepair.Proofs.Procedure.Monitor
import AzcRepair.Proofs.Run.Walk
import AzcRepair.Proofs.Run.Calls
import AzcRepair.Proofs.Run.Sessions
import AzcRepair.Proofs.Run.Target
import AzcRepair.Proofs.Json.RoundTrip
import AzcRepair.Proofs.Run.Outcomes
import AzcRepair.Proofs.Contract.Block
import AzcRepair.Proofs.Contract.RoundTrip
import AzcRepair.Proofs.Contract.Recovery
import AzcRepair.Proofs.Run.Passes
import AzcRepair.Proofs.Run.Backups
import AzcRepair.Proofs.Procedure.Count
import AzcRepair.Proofs.Run.Costs
import AzcRepair.Proofs.Run.Counters
import AzcRepair.Proofs.Run.Bounds
import AzcRepair.Proofs.Agents.Debts
import AzcRepair.Proofs.Http.Extension
import AzcRepair.Proofs.Procedure.Layers
import AzcRepair.Proofs.Run.Faults
import AzcRepair.Proofs.Run.Holdings
import AzcRepair.Proofs.Agents.Served
import AzcRepair.Proofs.Text.Lines
import AzcRepair.Proofs.Violation.Extraction
import AzcRepair.Proofs.Run.Passing
import AzcRepair.Proofs.Run.Rounds
import AzcRepair.Proofs.Run.Protocol
import AzcRepair.Proofs.Procedure.Lockstep
import AzcRepair.Proofs.Run.Cancellation
import AzcRepair.Proofs.Run.Views
import AzcRepair.Proofs.FileTree.Route
import AzcRepair.Proofs.FileTree.Places
import AzcRepair.Proofs.Settings.Demands
import AzcRepair.Proofs.Workspace.Coverage
import AzcRepair.Proofs.Access.Source
import AzcRepair.Proofs.Toolchain.OutputDirectory
import AzcRepair.Proofs.Agents.Tokens
import AzcRepair.Proofs.Violation.Message
import AzcRepair.Proofs.Violation.Log
import AzcRepair.Proofs.Violation.Findings
import AzcRepair.Proofs.Request.Composition
import AzcRepair.Proofs.Agents.Paging
import AzcRepair.Proofs.Text.Digits
import AzcRepair.Proofs.Calendar.Days
import AzcRepair.Proofs.Calendar.Stamp
import AzcRepair.Proofs.Workspace.Names
import AzcRepair.Proofs.Workspace.Operation
import AzcRepair.Proofs.Workspace.Store
import AzcRepair.Proofs.Procedure.Histories
import AzcRepair.Proofs.Outcome.RoundTrip
import AzcRepair.Proofs.Conversation.Dispatch
import AzcRepair.Proofs.Conversation.Setup
import AzcRepair.Proofs.Json.Members
import AzcRepair.Proofs.Settings.Layers
import AzcRepair.Proofs.Settings.Sources
import AzcRepair.Proofs.Settings.Reading
import AzcRepair.Proofs.Settings.Sections
import AzcRepair.Proofs.Settings.Precedence
import AzcRepair.Proofs.Text.Bytes
import AzcRepair.Proofs.Violation.Repeats
import AzcRepair.Proofs.Contract.Search
import AzcRepair.Proofs.Json.Limits
import AzcRepair.Proofs.Contract.Acceptance
import AzcRepair.Proofs.Conversation.Answers
import AzcRepair.Proofs.Scripted.Worker
import AzcRepair.Proofs.Scripted.Answers
import AzcRepair.Proofs.Violation.Project
import AzcRepair.Proofs.Backoff.Schedule
import AzcRepair.Proofs.Conversation.Attempts
import AzcRepair.Proofs.Agents.Cursors
import AzcRepair.Proofs.Agents.Deletions
import AzcRepair.Proofs.Agents.Purge
import AzcRepair.Proofs.Request.Separation
import AzcRepair.Proofs.FileTree.Below
import AzcRepair.Proofs.Toolchain.Search
import AzcRepair.Proofs.Toolchain.Preparation
import AzcRepair.Proofs.Text.Classes
import AzcRepair.Proofs.Worker.Freezing
import AzcRepair.Proofs.Calendar.Years
import AzcRepair.Proofs.Access.Expiry
import AzcRepair.Proofs.Access.CliOutput
import AzcRepair.Proofs.Settings.Values
import AzcRepair.Proofs.Settings.Replacement
import AzcRepair.Proofs.Settings.Secret
