import GridRules.About
import GridRules.Analysis
import GridRules.Calendar
import GridRules.Cells
import GridRules.CommandLine.Display
import GridRules.CommandLine.Options
import GridRules.CommandLine.Session
import GridRules.Compiler
import GridRules.Decimal.Arithmetic
import GridRules.Decimal.Binary64
import GridRules.Decimal.Reading
import GridRules.Decimal.Shortest
import GridRules.Difference
import GridRules.ErrorLog
import GridRules.Failure
import GridRules.Grid.Basic
import GridRules.Grid.Reading
import GridRules.Json.Reading
import GridRules.Json.Writing
import GridRules.Main
import GridRules.Mask
import GridRules.Pattern
import GridRules.Program.Expr
import GridRules.Program.Interpreter
import GridRules.Program.Reading
import GridRules.Program.Running
import GridRules.Program.Token
import GridRules.Proofs.Analysis
import GridRules.Proofs.CommandLine.Verification
import GridRules.Proofs.Difference
import GridRules.Proofs.ErrorLog
import GridRules.Proofs.ErrorLog.Recovery
import GridRules.Proofs.Grid.Canonical
import GridRules.Proofs.Grid.History
import GridRules.Proofs.Grid.Partition
import GridRules.Proofs.Grid.Reading
import GridRules.Proofs.Grid.Symbols
import GridRules.Proofs.Grid.Writing
import GridRules.Proofs.Grouping
import GridRules.Proofs.Json.LongNumber
import GridRules.Proofs.Json.Reading
import GridRules.Proofs.Json.RoundTrip
import GridRules.Proofs.Mask
import GridRules.Proofs.Pattern
import GridRules.Proofs.Program.Budget
import GridRules.Proofs.Program.Division
import GridRules.Proofs.Program.Evaluation
import GridRules.Proofs.Program.ExprText
import GridRules.Proofs.Program.Grammar
import GridRules.Proofs.Program.Interpreter
import GridRules.Proofs.Program.Lexeme
import GridRules.Proofs.Program.Machine
import GridRules.Proofs.Program.Names
import GridRules.Proofs.Program.Places
import GridRules.Proofs.Program.ProgramText
import GridRules.Proofs.Program.Reading
import GridRules.Proofs.Program.Respacing
import GridRules.Proofs.Program.Segmentation
import GridRules.Proofs.Program.Simulation
import GridRules.Proofs.Program.Spelling
import GridRules.Proofs.Program.StatementGrammar
import GridRules.Proofs.Report
import GridRules.Proofs.Rule.Classification
import GridRules.Proofs.Rule.Discovery
import GridRules.Proofs.Rule.Drawing
import GridRules.Proofs.Rule.Moving
import GridRules.Proofs.Rule.Parameters
import GridRules.Proofs.Rule.Position
import GridRules.Proofs.Rule.Scaling
import GridRules.Proofs.Rule.Shape
import GridRules.Proofs.Settings.Changing
import GridRules.Proofs.Settings.Check
import GridRules.Proofs.Settings.Data
import GridRules.Proofs.Settings.DefaultFile
import GridRules.Proofs.Settings.Formats
import GridRules.Proofs.Settings.History
import GridRules.Proofs.Settings.Layers
import GridRules.Proofs.Settings.Loading
import GridRules.Proofs.Settings.Saving
import GridRules.Proofs.Study
import GridRules.Proofs.Synthesis.Agreement
import GridRules.Proofs.Synthesis.CharacterLiteral
import GridRules.Proofs.Synthesis.Condition
import GridRules.Proofs.Synthesis.Listing
import GridRules.Proofs.Synthesis.Membership
import GridRules.Proofs.Synthesis.Running
import GridRules.Proofs.Synthesis.Statements
import GridRules.Proofs.Text.Decimal
import GridRules.Proofs.Text.Lines
import GridRules.Proofs.Text.Rows
import GridRules.Proofs.Text.TrailingBlanks
import GridRules.Proofs.Text.Word
import GridRules.Proofs.Verdict
import GridRules.Proofs.Workspace
import GridRules.Rule.Basic
import GridRules.Rule.Dimension
import GridRules.Rule.Discovery
import GridRules.Rule.Drawing
import GridRules.Settings.Basic
import GridRules.Settings.Field
import GridRules.Settings.Reading
import GridRules.Settings.Store
import GridRules.Settings.Variables
import GridRules.Shell.Builtin
import GridRules.Shell.Command
import GridRules.Shell.Condition
import GridRules.Shell.Control
import GridRules.Shell.Expansion
import GridRules.Shell.FileUtility
import GridRules.Shell.Files
import GridRules.Shell.Filter
import GridRules.Shell.Glob
import GridRules.Shell.Host
import GridRules.Shell.Reply
import GridRules.Shell.Running
import GridRules.Shell.Starting
import GridRules.Shell.State
import GridRules.Shell.Sum
import GridRules.Shell.Token
import GridRules.Shell.Word
import GridRules.Shell.Writing
import GridRules.Study
import GridRules.Synthesis.Condition
import GridRules.Synthesis.Layout
import GridRules.Synthesis.Listing
import GridRules.Text.Base64
import GridRules.Text.Classes
import GridRules.Text.Lines
import GridRules.Text.Printable
import GridRules.Text.Quoted
import GridRules.Text.UpperCase
import GridRules.Text.WholeNumber
import GridRules.Text.Word
import GridRules.Value
import GridRules.Value.Display
import GridRules.Value.Key
import GridRules.VariableFile
import GridRules.Workspace
import GridRules.Yaml.Cursor
import GridRules.Yaml.Node
import GridRules.Yaml.Reading
import GridRules.Yaml.Scalar
import GridRules.Yaml.ScalarValue
import GridRules.Yaml.Tag
import GridRules.Yaml.Token
import GridRules.Yaml.Writing
import GridRules.Proofs.Compiler
