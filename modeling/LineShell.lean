import LineShell.Application.Builtin
import LineShell.Application.Error
import LineShell.Application.Filter
import LineShell.Application.Help
import LineShell.Application.Input
import LineShell.Application.Run
import LineShell.Command.Assembly
import LineShell.Command.Basic
import LineShell.Command.Draft
import LineShell.Command.Streams
import LineShell.Completion.Basic
import LineShell.Completion.Split
import LineShell.Config.Basic
import LineShell.Config.Load
import LineShell.Config.Overlay
import LineShell.Decimal.Shortest
import LineShell.FileSystem.Access
import LineShell.FileSystem.Basic
import LineShell.FileSystem.Error
import LineShell.FileSystem.Resolve
import LineShell.Glob.Expand
import LineShell.Glob.Pattern
import LineShell.Line.Error
import LineShell.Line.Node
import LineShell.Line.Parser
import LineShell.Line.Quote
import LineShell.Line.Redirection
import LineShell.Log.Basic
import LineShell.Log.Level
import LineShell.Log.Record
import LineShell.Main
import LineShell.Program.Basic
import LineShell.Program.History
import LineShell.Proofs.Application.Contents
import LineShell.Proofs.Application.Failing
import LineShell.Proofs.Application.Ranges
import LineShell.Proofs.Application.Reading
import LineShell.Proofs.Application.Repetition
import LineShell.Proofs.Application.Search
import LineShell.Proofs.Application.Sorting
import LineShell.Proofs.Application.Writing
import LineShell.Proofs.Command.Acceptance
import LineShell.Proofs.Command.Assembly
import LineShell.Proofs.Command.Backquotes
import LineShell.Proofs.Command.Occurrence
import LineShell.Proofs.Command.Reconstruction
import LineShell.Proofs.Command.Resolution
import LineShell.Proofs.Command.Shape
import LineShell.Proofs.Command.Spacing
import LineShell.Proofs.FileSystem.Tree
import LineShell.Proofs.FileSystem.Writing
import LineShell.Proofs.Line.Canonical
import LineShell.Proofs.Line.Concatenation
import LineShell.Proofs.Line.Enclosed
import LineShell.Proofs.Line.Language
import LineShell.Proofs.Line.Printing
import LineShell.Proofs.Line.RoundTrip
import LineShell.Proofs.Line.Transition
import LineShell.Proofs.Shell.Channels
import LineShell.Proofs.Shell.Conflicts
import LineShell.Proofs.Shell.Dispatches
import LineShell.Proofs.Shell.Echo
import LineShell.Proofs.Shell.Effect
import LineShell.Proofs.Shell.Filters
import LineShell.Proofs.Shell.Fragments
import LineShell.Proofs.Shell.Frame
import LineShell.Proofs.Shell.Heredocs
import LineShell.Proofs.Shell.Lines
import LineShell.Proofs.Shell.Pipelines
import LineShell.Proofs.Shell.Redirection
import LineShell.Proofs.Shell.Registration
import LineShell.Proofs.Shell.Spans
import LineShell.Proofs.Text.Blanks
import LineShell.Proofs.Text.Lines
import LineShell.Proofs.Text.Order
import LineShell.Proofs.Text.Utf8
import LineShell.Regex.Ast
import LineShell.Regex.Brackets
import LineShell.Regex.Cursor
import LineShell.Regex.Error
import LineShell.Regex.Escape
import LineShell.Regex.Matcher
import LineShell.Regex.Parser
import LineShell.Regex.Program
import LineShell.Shell.Channel
import LineShell.Shell.Dispatch
import LineShell.Shell.Error
import LineShell.Shell.Execute
import LineShell.Shell.Journal
import LineShell.Shell.Registry
import LineShell.Text.Basic
import LineShell.Text.Blank
import LineShell.Text.Count
import LineShell.Text.Home
import LineShell.Text.Quoted
import LineShell.Text.Utf8
import LineShell.Toml.Basic
import LineShell.Toml.Document
import LineShell.Toml.Error
import LineShell.Toml.Literal
import LineShell.Toml.Scan
import LineShell.Toml.Value
import LineShell.Unicode.CaseMapping
import LineShell.Unicode.Category
import LineShell.Unicode.CharSet
import LineShell.Unicode.Property
import LineShell.Unicode.Script
import LineShell.Proofs.Config.Merging
import LineShell.Proofs.Shell.Tolerance
import LineShell.Proofs.Application.Expansion
import LineShell.Proofs.Command.Descent
import LineShell.Proofs.Command.Splicing
import LineShell.Proofs.Command.Sources
import LineShell.Proofs.Completion.Boundary
