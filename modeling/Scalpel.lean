import Scalpel.Bench.Files
import Scalpel.Bench.Problems
import Scalpel.Bench.Run
import Scalpel.Child.Process
import Scalpel.Child.Servers
import Scalpel.Child.Supervision
import Scalpel.Cli.Command
import Scalpel.Cli.Exit
import Scalpel.Cli.Option
import Scalpel.Cli.Run
import Scalpel.Decimal.Numeral
import Scalpel.Decimal.Shortest
import Scalpel.Document.Edit
import Scalpel.Document.Position
import Scalpel.Document.Text
import Scalpel.Document.Tracker
import Scalpel.Edit.Operation
import Scalpel.Failure
import Scalpel.Files.Canonical
import Scalpel.Files.Path
import Scalpel.Files.Tree
import Scalpel.Files.Uri
import Scalpel.Json.Access
import Scalpel.Json.Basic
import Scalpel.Json.Reader
import Scalpel.Json.Writer
import Scalpel.Log.Scope
import Scalpel.Main
import Scalpel.Number
import Scalpel.Problem
import Scalpel.Proofs.Acceptance
import Scalpel.Proofs.Attention
import Scalpel.Proofs.Batches
import Scalpel.Proofs.Booking
import Scalpel.Proofs.Busy
import Scalpel.Proofs.Chronicle
import Scalpel.Proofs.Clamping
import Scalpel.Proofs.Clerk
import Scalpel.Proofs.Confinement
import Scalpel.Proofs.Containment
import Scalpel.Proofs.Correlation
import Scalpel.Proofs.Desk
import Scalpel.Proofs.Desync
import Scalpel.Proofs.Distinct
import Scalpel.Proofs.Documents
import Scalpel.Proofs.EditRequest
import Scalpel.Proofs.EditedFiles
import Scalpel.Proofs.Effect
import Scalpel.Proofs.Entries
import Scalpel.Proofs.Errands
import Scalpel.Proofs.Exchange
import Scalpel.Proofs.Executables
import Scalpel.Proofs.Fallback
import Scalpel.Proofs.FileUris
import Scalpel.Proofs.Framing
import Scalpel.Proofs.Freshness
import Scalpel.Proofs.Gathering
import Scalpel.Proofs.Handshake
import Scalpel.Proofs.Housing
import Scalpel.Proofs.HoverTexts
import Scalpel.Proofs.InStep
import Scalpel.Proofs.Innermost
import Scalpel.Proofs.Insertion
import Scalpel.Proofs.Intake
import Scalpel.Proofs.Layers
import Scalpel.Proofs.Lifeline
import Scalpel.Proofs.Members
import Scalpel.Proofs.Mirror
import Scalpel.Proofs.Misconfiguration
import Scalpel.Proofs.Offsets
import Scalpel.Proofs.OneRestart
import Scalpel.Proofs.Opening
import Scalpel.Proofs.OperationFiles
import Scalpel.Proofs.Outlines
import Scalpel.Proofs.Overshoot
import Scalpel.Proofs.Payloads
import Scalpel.Proofs.Phases
import Scalpel.Proofs.Places
import Scalpel.Proofs.Poise
import Scalpel.Proofs.Previews
import Scalpel.Proofs.Quiet
import Scalpel.Proofs.RealPaths
import Scalpel.Proofs.Recording
import Scalpel.Proofs.Refusals
import Scalpel.Proofs.Release
import Scalpel.Proofs.RenamePositions
import Scalpel.Proofs.Replay
import Scalpel.Proofs.Replies
import Scalpel.Proofs.Requests
import Scalpel.Proofs.Retirement
import Scalpel.Proofs.Reverting
import Scalpel.Proofs.Rewriting
import Scalpel.Proofs.Routing
import Scalpel.Proofs.Schedule
import Scalpel.Proofs.ServerView
import Scalpel.Proofs.Simultaneous
import Scalpel.Proofs.Sitting
import Scalpel.Proofs.SoftQueries
import Scalpel.Proofs.Spoiling
import Scalpel.Proofs.Stages
import Scalpel.Proofs.Staleness
import Scalpel.Proofs.Supervision
import Scalpel.Proofs.Tables
import Scalpel.Proofs.Tracking
import Scalpel.Proofs.Turns
import Scalpel.Proofs.Undoing
import Scalpel.Proofs.Upkeep
import Scalpel.Proofs.Utf8
import Scalpel.Proofs.Watching
import Scalpel.Proofs.WholeText
import Scalpel.Proofs.Writing
import Scalpel.Report
import Scalpel.Server.Binary
import Scalpel.Server.Settings
import Scalpel.Session.Client
import Scalpel.Session.Clock
import Scalpel.Session.Documents
import Scalpel.Session.Exchange
import Scalpel.Session.Lifecycle
import Scalpel.Session.Queries
import Scalpel.Shell.Arithmetic
import Scalpel.Shell.Builtin
import Scalpel.Shell.Condition
import Scalpel.Shell.Control
import Scalpel.Shell.Expansion
import Scalpel.Shell.Features
import Scalpel.Shell.Format
import Scalpel.Shell.Machine
import Scalpel.Shell.Process
import Scalpel.Shell.Program
import Scalpel.Shell.State
import Scalpel.Shell.Syntax
import Scalpel.Shell.Tool.Basic
import Scalpel.Shell.Tool.Columns
import Scalpel.Shell.Tool.Count
import Scalpel.Shell.Tool.Editing
import Scalpel.Shell.Tool.Editor
import Scalpel.Shell.Tool.Expression
import Scalpel.Shell.Tool.Letters
import Scalpel.Shell.Tool.Listing
import Scalpel.Shell.Tool.Portion
import Scalpel.Shell.Tool.Search
import Scalpel.Shell.Tool.Sort
import Scalpel.Symbol.NamePath
import Scalpel.Symbol.Outline
import Scalpel.Text.Blank
import Scalpel.Text.CharName.Alphabets
import Scalpel.Text.CharName.Ancient
import Scalpel.Text.CharName.Forms
import Scalpel.Text.CharName.Lookup
import Scalpel.Text.CharName.Pictures
import Scalpel.Text.CharName.Radicals
import Scalpel.Text.CharName.Symbols
import Scalpel.Text.CharName.Table
import Scalpel.Text.Charset
import Scalpel.Text.Coding.Basic
import Scalpel.Text.Coding.Chinese
import Scalpel.Text.Coding.Designated
import Scalpel.Text.Coding.Domain
import Scalpel.Text.Coding.Escaped
import Scalpel.Text.Coding.Japanese
import Scalpel.Text.Coding.Korean
import Scalpel.Text.Coding.Names
import Scalpel.Text.Coding.Page
import Scalpel.Text.Coding.Taiwanese
import Scalpel.Text.Coding.Unicode
import Scalpel.Text.Glob
import Scalpel.Text.Half
import Scalpel.Text.Normal
import Scalpel.Text.Quoted
import Scalpel.Text.Regex
import Scalpel.Text.ShellWords
import Scalpel.Text.Utf8
import Scalpel.Wire.Connection
import Scalpel.Wire.Frame
import Scalpel.Wire.Peer
import Scalpel.Wire.Script
import Scalpel.Wire.Stdio
import Scalpel.Workspace.Basic
import Scalpel.Workspace.Editing
import Scalpel.Workspace.Files
import Scalpel.Workspace.Navigation
import Scalpel.Workspace.Status
