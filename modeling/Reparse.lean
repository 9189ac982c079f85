import Reparse.Ast.CanonicalText
import Reparse.Ast.Document
import Reparse.Ast.Kind
import Reparse.Ast.NormalForm
import Reparse.Ast.Tree
import Reparse.Binary64.Basic
import Reparse.Binary64.Fixed
import Reparse.Binary64.Nearest
import Reparse.Binary64.Numeral
import Reparse.Binary64.Shortest
import Reparse.CommandLine.Arguments
import Reparse.CommandLine.Perform
import Reparse.Dictionary
import Reparse.Expectation.File
import Reparse.Expectation.Table
import Reparse.Expectation.Verdict
import Reparse.Json.Basic
import Reparse.Json.Numeral
import Reparse.Json.Quoted
import Reparse.Json.Reader
import Reparse.Json.Writer
import Reparse.Main
import Reparse.Minilang.Parser
import Reparse.Minilang.Printer
import Reparse.Minilang.Token
import Reparse.Minilang.Tools
import Reparse.Notice
import Reparse.Pattern.Automaton
import Reparse.Pattern.Bracket
import Reparse.Pattern.ClassName
import Reparse.Pattern.Edge
import Reparse.Pattern.Escape
import Reparse.Pattern.Expression
import Reparse.Pattern.Flags
import Reparse.Pattern.Footprint
import Reparse.Pattern.Form
import Reparse.Pattern.Glob
import Reparse.Pattern.Regex
import Reparse.Proofs.Ast.Acceptance
import Reparse.Proofs.Ast.Boundary
import Reparse.Proofs.Ast.CanonicalText
import Reparse.Proofs.Ast.Composition
import Reparse.Proofs.Ast.Condition
import Reparse.Proofs.Ast.Frame
import Reparse.Proofs.Ast.JsonText
import Reparse.Proofs.Ast.Key
import Reparse.Proofs.Ast.Meaning
import Reparse.Proofs.Ast.Metadata
import Reparse.Proofs.Ast.Nesting
import Reparse.Proofs.Ast.Nodes
import Reparse.Proofs.Ast.NormalForm
import Reparse.Proofs.Ast.Position
import Reparse.Proofs.Ast.Reading
import Reparse.Proofs.Ast.Reread
import Reparse.Proofs.Ast.Rounded
import Reparse.Proofs.Ast.Screen
import Reparse.Proofs.Ast.Sequence
import Reparse.Proofs.Ast.TextReading
import Reparse.Proofs.Ast.Unmarked
import Reparse.Proofs.Ast.WriteBack
import Reparse.Proofs.Binary64.Denotation
import Reparse.Proofs.Binary64.Integer
import Reparse.Proofs.Binary64.NumeralText
import Reparse.Proofs.Binary64.Range
import Reparse.Proofs.Binary64.ReadBack
import Reparse.Proofs.Binary64.Rounding
import Reparse.Proofs.CommandLine.ExitStatus
import Reparse.Proofs.Dictionary
import Reparse.Proofs.Expectation.Judgement
import Reparse.Proofs.Expectation.Table
import Reparse.Proofs.Expectation.Verdict
import Reparse.Proofs.Json.Grammar
import Reparse.Proofs.Json.Numeral
import Reparse.Proofs.Json.Quoted
import Reparse.Proofs.Json.Reader
import Reparse.Proofs.Json.Reads
import Reparse.Proofs.Json.Valid
import Reparse.Proofs.Minilang.Alteration
import Reparse.Proofs.Minilang.Coverage
import Reparse.Proofs.Minilang.DefectReach
import Reparse.Proofs.Minilang.Derivation
import Reparse.Proofs.Minilang.Grammar
import Reparse.Proofs.Minilang.Grouping
import Reparse.Proofs.Minilang.Lexer
import Reparse.Proofs.Minilang.Number
import Reparse.Proofs.Minilang.Parser
import Reparse.Proofs.Minilang.Placement
import Reparse.Proofs.Minilang.Printer
import Reparse.Proofs.Minilang.Respelling
import Reparse.Proofs.Minilang.RoundTrip
import Reparse.Proofs.Minilang.Scan
import Reparse.Proofs.Minilang.Segments
import Reparse.Proofs.Minilang.Symptom
import Reparse.Proofs.Minilang.Tolerance
import Reparse.Proofs.Minilang.Unambiguous
import Reparse.Proofs.Suite.Agreement
import Reparse.Proofs.Suite.FailFast
import Reparse.Proofs.Suite.Frame
import Reparse.Proofs.Suite.Run
import Reparse.Proofs.Suite.Selection
import Reparse.Proofs.Suite.Visits
import Reparse.Proofs.Text.Utf8
import Reparse.Proofs.Tool.Frame
import Reparse.Proofs.Tool.Session
import Reparse.Proofs.Trial.Course
import Reparse.Proofs.Trial.Report
import Reparse.Settings
import Reparse.Shell.Arithmetic
import Reparse.Shell.BuiltIn
import Reparse.Shell.Field
import Reparse.Shell.Launch
import Reparse.Shell.Machine
import Reparse.Shell.Reader
import Reparse.Shell.Run
import Reparse.Shell.Script
import Reparse.Shell.Search
import Reparse.Shell.Signal
import Reparse.Shell.Token
import Reparse.Storage.Path
import Reparse.Storage.Volume
import Reparse.Suite.Basic
import Reparse.Suite.Layout
import Reparse.Suite.Run
import Reparse.Text.Age
import Reparse.Text.Blank
import Reparse.Text.Break
import Reparse.Text.Category
import Reparse.Text.CharacterSet
import Reparse.Text.Folding
import Reparse.Text.Property
import Reparse.Text.Script
import Reparse.Text.Utf8
import Reparse.Toml.Basic
import Reparse.Toml.Reader
import Reparse.Toml.Record
import Reparse.Toml.Scalar
import Reparse.Tool.Chain
import Reparse.Tool.Command
import Reparse.Tool.Event
import Reparse.Tool.Goal
import Reparse.Trial.Examination
import Reparse.Trial.Outcome
import Reparse.Trial.Report
import Reparse.Utility.Awk.Memory
import Reparse.Utility.Awk.Parser
import Reparse.Utility.Awk.Program
import Reparse.Utility.Awk.Run
import Reparse.Utility.Awk.Start
import Reparse.Utility.Awk.Token
import Reparse.Utility.Awk.Value
import Reparse.Utility.Basic
import Reparse.Utility.Catalogue
import Reparse.Utility.Columns
import Reparse.Utility.Compare
import Reparse.Utility.Condition
import Reparse.Utility.Digest
import Reparse.Utility.Dump
import Reparse.Utility.Edit
import Reparse.Utility.EditScript
import Reparse.Utility.Escape
import Reparse.Utility.Files
import Reparse.Utility.Find
import Reparse.Utility.Format
import Reparse.Utility.Grep
import Reparse.Utility.Lines
import Reparse.Utility.Options
import Reparse.Utility.Pieces
import Reparse.Utility.Regex
import Reparse.Utility.Starter
import Reparse.Utility.Words
