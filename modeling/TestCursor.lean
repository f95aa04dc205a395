import TestCursor.Analysis
import TestCursor.Cli.Grammar
import TestCursor.Cli.Location
import TestCursor.Cli.Report
import TestCursor.Cli.Run
import TestCursor.Cli.ScriptSearch
import TestCursor.Command
import TestCursor.Config.Basic
import TestCursor.Config.Json
import TestCursor.Config.Toml
import TestCursor.Error
import TestCursor.File.Error
import TestCursor.File.Path
import TestCursor.File.Resolve
import TestCursor.File.Tree
import TestCursor.Interpreter
import TestCursor.Json.Printer
import TestCursor.Json.Reader
import TestCursor.Json.Token
import TestCursor.Main
import TestCursor.Proofs.AlikeLines
import TestCursor.Proofs.Ancestors
import TestCursor.Proofs.ArgumentOrder
import TestCursor.Proofs.CommandSpacing
import TestCursor.Proofs.CommandWords
import TestCursor.Proofs.ConfigReading
import TestCursor.Proofs.ConfigText
import TestCursor.Proofs.CursorLines
import TestCursor.Proofs.DottedPath
import TestCursor.Proofs.DryRun
import TestCursor.Proofs.Enclosure
import TestCursor.Proofs.EncodedText
import TestCursor.Proofs.ExitCode
import TestCursor.Proofs.FileWriting
import TestCursor.Proofs.FirstOccurrence
import TestCursor.Proofs.Forest
import TestCursor.Proofs.ForgottenState
import TestCursor.Proofs.Initialisation
import TestCursor.Proofs.JsonGrammar
import TestCursor.Proofs.JsonReading
import TestCursor.Proofs.JsonText
import TestCursor.Proofs.LineEndings
import TestCursor.Proofs.LineGrammar
import TestCursor.Proofs.LineReading
import TestCursor.Proofs.Lookup
import TestCursor.Proofs.ModuleSpelling
import TestCursor.Proofs.NameOrder
import TestCursor.Proofs.NearestConfig
import TestCursor.Proofs.NewProgram
import TestCursor.Proofs.NumberedLines
import TestCursor.Proofs.PackageRule
import TestCursor.Proofs.PathsOfPlaces
import TestCursor.Proofs.PlaceGrammar
import TestCursor.Proofs.PlannedRuns
import TestCursor.Proofs.PrintedAnalysis
import TestCursor.Proofs.ProjectFile
import TestCursor.Proofs.Resolution
import TestCursor.Proofs.SameFile
import TestCursor.Proofs.ScopeAround
import TestCursor.Proofs.ScriptSearch
import TestCursor.Proofs.SearchedFiles
import TestCursor.Proofs.SessionHistory
import TestCursor.Proofs.ShellCalls
import TestCursor.Proofs.ShellStart
import TestCursor.Proofs.ShellWords
import TestCursor.Proofs.SpacedWords
import TestCursor.Proofs.Splitting
import TestCursor.Proofs.StateRegister
import TestCursor.Proofs.TestPathReading
import TestCursor.Proofs.TreesAlike
import TestCursor.Proofs.WorkspaceRoot
import TestCursor.Regex.Basic
import TestCursor.Regex.Reader
import TestCursor.Regex.Remark
import TestCursor.Scope.Basic
import TestCursor.Scope.Line
import TestCursor.Session
import TestCursor.Shell.Arithmetic
import TestCursor.Shell.Attribute
import TestCursor.Shell.Builtin.Basic
import TestCursor.Shell.Builtin.Condition
import TestCursor.Shell.Builtin.Control
import TestCursor.Shell.Builtin.Job
import TestCursor.Shell.Evaluate
import TestCursor.Shell.Expansion
import TestCursor.Shell.Field
import TestCursor.Shell.Installation
import TestCursor.Shell.Job
import TestCursor.Shell.Lookup
import TestCursor.Shell.Machine
import TestCursor.Shell.Octets
import TestCursor.Shell.Pattern
import TestCursor.Shell.Program
import TestCursor.Shell.Reader.Command
import TestCursor.Shell.Reader.Input
import TestCursor.Shell.Reader.Token
import TestCursor.Shell.Reader.Word
import TestCursor.Shell.Redirection
import TestCursor.Shell.Run
import TestCursor.Shell.Script
import TestCursor.Shell.Signal
import TestCursor.Shell.Stream
import TestCursor.Shell.Syntax
import TestCursor.Shell.User
import TestCursor.Shell.Variable
import TestCursor.Source
import TestCursor.StateFile
import TestCursor.Target
import TestCursor.TestPath
import TestCursor.Text.Blank
import TestCursor.Text.Lines
import TestCursor.Text.Split
import TestCursor.Text.Word
import TestCursor.Text.WordTable
import TestCursor.Toml.Number
import TestCursor.Toml.Reader
import TestCursor.Toml.Table
import TestCursor.Toml.Text
import TestCursor.Toml.Time
import TestCursor.Toml.Value
import TestCursor.Utility.Basic
import TestCursor.Utility.Column
import TestCursor.Utility.Compare
import TestCursor.Utility.Date
import TestCursor.Utility.Digest
import TestCursor.Utility.Edit.Run
import TestCursor.Utility.Edit.Script
import TestCursor.Utility.Files
import TestCursor.Utility.Find
import TestCursor.Utility.Floating
import TestCursor.Utility.Format
import TestCursor.Utility.Grep
import TestCursor.Utility.Listing
import TestCursor.Utility.Number
import TestCursor.Utility.Path
import TestCursor.Utility.Permission
import TestCursor.Utility.Piece
import TestCursor.Utility.Show
import TestCursor.Utility.Sort
import TestCursor.Utility.Start
import TestCursor.Utility.Table
import TestCursor.Utility.Transfer
import TestCursor.Utility.Translate
import TestCursor.Workspace
