import CompileTrace.Build.Child
import CompileTrace.Build.Diagnostic
import CompileTrace.Build.Outcome
import CompileTrace.Build.Output
import CompileTrace.Build.Request
import CompileTrace.Build.Session
import CompileTrace.Build.Timeout
import CompileTrace.Capture.Basic
import CompileTrace.Capture.Build
import CompileTrace.Capture.Reader
import CompileTrace.Capture.Registry
import CompileTrace.CommandLine.Executable
import CompileTrace.CommandLine.Quotation
import CompileTrace.CommandLine.Token
import CompileTrace.Compiler.Arguments
import CompileTrace.Compiler.Directive
import CompileTrace.Compiler.Options
import CompileTrace.Compiler.Report
import CompileTrace.Compiler.Switch
import CompileTrace.FileTree.Basic
import CompileTrace.FileTree.Running
import CompileTrace.Invocation.Basic
import CompileTrace.Invocation.Dump
import CompileTrace.Invocation.Record
import CompileTrace.Json.Basic
import CompileTrace.Json.Reader
import CompileTrace.Json.Shown
import CompileTrace.Json.Writer
import CompileTrace.Main
import CompileTrace.Number.Decimal
import CompileTrace.Number.Double
import CompileTrace.Number.Places
import CompileTrace.Number.Shortest
import CompileTrace.Number.Whole
import CompileTrace.Path.Basic
import CompileTrace.Program.Options
import CompileTrace.Program.Run
import CompileTrace.Proofs.Build.Alone
import CompileTrace.Proofs.Build.Buffer
import CompileTrace.Proofs.Build.Cancellation
import CompileTrace.Proofs.Build.Diagnostics
import CompileTrace.Proofs.Build.Launches
import CompileTrace.Proofs.Build.Listeners
import CompileTrace.Proofs.Build.Logs
import CompileTrace.Proofs.Build.Order
import CompileTrace.Proofs.Build.Places
import CompileTrace.Proofs.Build.Properties
import CompileTrace.Proofs.Build.Statements
import CompileTrace.Proofs.Build.Steps
import CompileTrace.Proofs.Build.Streams
import CompileTrace.Proofs.Build.Turns
import CompileTrace.Proofs.Build.Unreadable
import CompileTrace.Proofs.Build.Values
import CompileTrace.Proofs.Capture.Batches
import CompileTrace.Proofs.Capture.FirstFault
import CompileTrace.Proofs.Capture.Independence
import CompileTrace.Proofs.Capture.Logs
import CompileTrace.Proofs.Capture.Recordings
import CompileTrace.Proofs.Capture.Sharing
import CompileTrace.Proofs.CommandLine.Executable
import CompileTrace.Proofs.CommandLine.Layout
import CompileTrace.Proofs.CommandLine.Modes
import CompileTrace.Proofs.CommandLine.Parts
import CompileTrace.Proofs.CommandLine.Quoting
import CompileTrace.Proofs.CommandLine.Reading
import CompileTrace.Proofs.Compiler.Accumulation
import CompileTrace.Proofs.Compiler.Composition
import CompileTrace.Proofs.Compiler.Effects
import CompileTrace.Proofs.Compiler.Lists
import CompileTrace.Proofs.Compiler.Numerals
import CompileTrace.Proofs.Compiler.Paths
import CompileTrace.Proofs.Compiler.Recorded
import CompileTrace.Proofs.Compiler.Reporting
import CompileTrace.Proofs.Compiler.SimpleQuotes
import CompileTrace.Proofs.Compiler.Spelling
import CompileTrace.Proofs.Compiler.Switches
import CompileTrace.Proofs.FileTree.Trees
import CompileTrace.Proofs.FileTree.Walks
import CompileTrace.Proofs.Interleaving
import CompileTrace.Proofs.Invocation.Dumps
import CompileTrace.Proofs.Json.Objects
import CompileTrace.Proofs.Json.Strings
import CompileTrace.Proofs.Number.Digits
import CompileTrace.Proofs.Occurrences
import CompileTrace.Proofs.Path.Children
import CompileTrace.Proofs.Path.Normal
import CompileTrace.Proofs.Path.Parts
import CompileTrace.Proofs.Path.Tidy
import CompileTrace.Proofs.Path.Usable
import CompileTrace.Proofs.Program.Assembly
import CompileTrace.Proofs.Search.BuildTarget
import CompileTrace.Proofs.Search.Nearest
import CompileTrace.Proofs.Search.ProjectRoot
import CompileTrace.Proofs.Service.Current
import CompileTrace.Proofs.Service.Lookups
import CompileTrace.Proofs.Table
import CompileTrace.Proofs.Text.Decoding
import CompileTrace.Proofs.Text.Fields
import CompileTrace.Proofs.Text.LetterCase
import CompileTrace.Proofs.Text.Lines
import CompileTrace.Proofs.Text.Newlines
import CompileTrace.Proofs.Text.Trimming
import CompileTrace.Proofs.Text.Utf8
import CompileTrace.Proofs.Traversal
import CompileTrace.Proofs.Uri.FilePaths
import CompileTrace.Proofs.Workspace.Additions
import CompileTrace.Proofs.Workspace.Alone
import CompileTrace.Proofs.Workspace.Cache
import CompileTrace.Proofs.Workspace.CacheRuns
import CompileTrace.Proofs.Workspace.Compilation
import CompileTrace.Proofs.Workspace.Documents
import CompileTrace.Proofs.Workspace.Identity
import CompileTrace.Proofs.Workspace.Keys
import CompileTrace.Proofs.Workspace.Recorded
import CompileTrace.Proofs.Workspace.Renumbering
import CompileTrace.Proofs.Workspace.Sources
import CompileTrace.Proofs.Workspace.Stages
import CompileTrace.Search.BuildTarget
import CompileTrace.Search.ProjectRoot
import CompileTrace.Service.Basic
import CompileTrace.Service.Resource
import CompileTrace.Table
import CompileTrace.Text.Basic
import CompileTrace.Text.Blank
import CompileTrace.Text.CodePoint
import CompileTrace.Text.CodeRange
import CompileTrace.Text.Digit
import CompileTrace.Text.LetterCase
import CompileTrace.Text.Newline
import CompileTrace.Text.Pieces
import CompileTrace.Text.Printable
import CompileTrace.Text.Quoted
import CompileTrace.Text.Utf8
import CompileTrace.Text.Word
import CompileTrace.Uri.File
import CompileTrace.Uri.Host
import CompileTrace.Uri.Percent
import CompileTrace.Workspace.Assembly
import CompileTrace.Workspace.Basic
import CompileTrace.Workspace.Project
import CompileTrace.Workspace.Reference
import CompileTrace.Workspace.Report
import CompileTrace.Workspace.Source
