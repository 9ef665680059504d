import LineShell.Builtin
import LineShell.CommandLine
import LineShell.Completion
import LineShell.Config
import LineShell.Editing.LineReader
import LineShell.Editing.Session
import LineShell.Input.Key
import LineShell.Main
import LineShell.Proofs.CommandLine.BuiltinReports
import LineShell.Proofs.CommandLine.EnteredDirectory
import LineShell.Proofs.CommandLine.ErrorTexts
import LineShell.Proofs.CommandLine.FailedLine
import LineShell.Proofs.CommandLine.FailingStreams
import LineShell.Proofs.CommandLine.FirstFailure
import LineShell.Proofs.CommandLine.QuotedEcho
import LineShell.Proofs.CommandLine.QuotedOperator
import LineShell.Proofs.CommandLine.RedirectedBuiltin
import LineShell.Proofs.CommandLine.RepeatedRedirect
import LineShell.Proofs.CommandLine.Runs
import LineShell.Proofs.CommandLine.ShellHistory
import LineShell.Proofs.CommandLine.TypeAgreement
import LineShell.Proofs.Completion.SortedNames
import LineShell.Proofs.Editing.CompletedName
import LineShell.Proofs.Editing.LineByLine
import LineShell.Proofs.Editing.OneSession
import LineShell.Proofs.Editing.Screen
import LineShell.Proofs.Editing.SettledTab
import LineShell.Proofs.Editing.TabStreak
import LineShell.Proofs.Editing.Typing
import LineShell.Proofs.Input.ByteSource
import LineShell.Proofs.Input.Chunks
import LineShell.Proofs.Input.ControlKeys
import LineShell.Proofs.Input.KeyCodes
import LineShell.Proofs.Input.Keystrokes
import LineShell.Proofs.Repl.WholeRun
import LineShell.Proofs.SearchPath.Candidates
import LineShell.Proofs.SearchPath.Found
import LineShell.Proofs.SearchPath.Spelling
import LineShell.Proofs.System.ChildStreams
import LineShell.Proofs.System.FaultReason
import LineShell.Proofs.System.OpenTarget
import LineShell.Proofs.System.Outlets
import LineShell.Proofs.System.Received
import LineShell.Proofs.System.Rewritten
import LineShell.Proofs.System.Streams
import LineShell.Proofs.Terminal.GuardHistory
import LineShell.Proofs.Text.ByteOrder
import LineShell.Proofs.Text.Numeral
import LineShell.Proofs.Words.Quoted
import LineShell.Proofs.Words.Scan
import LineShell.Proofs.Words.Spacing
import LineShell.Proofs.Words.Units
import LineShell.Proofs.Words.Unquoted
import LineShell.Redirect
import LineShell.Repl
import LineShell.SearchPath
import LineShell.SearchPath.Lookup
import LineShell.Spawn
import LineShell.System.Errno
import LineShell.System.Fault
import LineShell.System.FileSystem
import LineShell.System.Limits
import LineShell.System.Lookup
import LineShell.System.OpenFile
import LineShell.System.Process
import LineShell.System.Signal
import LineShell.Terminal.RawMode
import LineShell.Terminal.Settings
import LineShell.Text.Binary64
import LineShell.Text.Blank
import LineShell.Text.Bytes
import LineShell.Tilde
import LineShell.Userland.Archiver
import LineShell.Userland.Copying
import LineShell.Userland.Directories
import LineShell.Userland.Installation
import LineShell.Userland.Loader
import LineShell.Userland.Quoting
import LineShell.Userland.Script.Arithmetic
import LineShell.Userland.Script.Condition
import LineShell.Userland.Script.Directory
import LineShell.Userland.Script.Expansion
import LineShell.Userland.Script.Fields
import LineShell.Userland.Script.Forking
import LineShell.Userland.Script.Fractions
import LineShell.Userland.Script.Globbing
import LineShell.Userland.Script.Grammar
import LineShell.Userland.Script.Jobs
import LineShell.Userland.Script.Naming
import LineShell.Userland.Script.Octets
import LineShell.Userland.Script.Pattern
import LineShell.Userland.Script.Printing
import LineShell.Userland.Script.Reader
import LineShell.Userland.Script.Redirecting
import LineShell.Userland.Script.Resources
import LineShell.Userland.Script.Run
import LineShell.Userland.Script.Running
import LineShell.Userland.Script.Searching
import LineShell.Userland.Script.Signals
import LineShell.Userland.Script.Start
import LineShell.Userland.Script.Syntax
import LineShell.Userland.Script.Text
import LineShell.Userland.Script.Token
import LineShell.Userland.Script.Utility
import LineShell.Userland.Tool
import LineShell.Userland.Work
import LineShell.Words
