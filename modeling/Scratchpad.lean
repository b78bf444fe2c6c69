import Scratchpad.App.Key
import Scratchpad.Buffer.Basic
import Scratchpad.Buffer.Document
import Scratchpad.Buffer.Motion
import Scratchpad.Buffer.Popup
import Scratchpad.Command.Execution
import Scratchpad.Command.Invocation
import Scratchpad.Command.Nearness
import Scratchpad.Completion.Candidates
import Scratchpad.Completion.Request
import Scratchpad.Console.Cells
import Scratchpad.Console.PictureTable
import Scratchpad.Console.Print
import Scratchpad.Console.ShortCode
import Scratchpad.Decimal.FloatText
import Scratchpad.Decimal.Integer
import Scratchpad.Decimal.Nearest
import Scratchpad.Decimal.Power
import Scratchpad.Decimal.Shortest
import Scratchpad.Decimal.Significant
import Scratchpad.Eval.Assignment
import Scratchpad.Eval.Attribute
import Scratchpad.Eval.Basic
import Scratchpad.Eval.Builtin
import Scratchpad.Eval.Call
import Scratchpad.Eval.Callable
import Scratchpad.Eval.CollectionMethod
import Scratchpad.Eval.Convert
import Scratchpad.Eval.Expression
import Scratchpad.Eval.Interpreter
import Scratchpad.Eval.Item
import Scratchpad.Eval.Iteration
import Scratchpad.Eval.Operator
import Scratchpad.Eval.PartMethod
import Scratchpad.Eval.Placeholder
import Scratchpad.Eval.Print
import Scratchpad.Eval.Statement
import Scratchpad.Eval.TextMethod
import Scratchpad.Eval.Variable
import Scratchpad.Files
import Scratchpad.History
import Scratchpad.Log.Level
import Scratchpad.Log.Moment
import Scratchpad.Log.Record
import Scratchpad.Log.Setup
import Scratchpad.Main
import Scratchpad.Marking
import Scratchpad.Namespace
import Scratchpad.Proofs.BackwardScan
import Scratchpad.Proofs.BelowSelection
import Scratchpad.Proofs.BlockLines
import Scratchpad.Proofs.BufferRuns
import Scratchpad.Proofs.CommitSteps
import Scratchpad.Proofs.Completion
import Scratchpad.Proofs.Containment
import Scratchpad.Proofs.Edit
import Scratchpad.Proofs.FileRuns
import Scratchpad.Proofs.HistoryWalk
import Scratchpad.Proofs.Insertion
import Scratchpad.Proofs.Line
import Scratchpad.Proofs.LineColumns
import Scratchpad.Proofs.LogCalls
import Scratchpad.Proofs.Lookup
import Scratchpad.Proofs.MappingLayout
import Scratchpad.Proofs.Marks
import Scratchpad.Proofs.MergedSpans
import Scratchpad.Proofs.NameOrder
import Scratchpad.Proofs.Output
import Scratchpad.Proofs.PathNames
import Scratchpad.Proofs.PathSyntax
import Scratchpad.Proofs.PathTokens
import Scratchpad.Proofs.Pictures
import Scratchpad.Proofs.PrintedPieces
import Scratchpad.Proofs.PrintedText
import Scratchpad.Proofs.Recall
import Scratchpad.Proofs.Replay
import Scratchpad.Proofs.ReplayEndings
import Scratchpad.Proofs.RootNames
import Scratchpad.Proofs.Scopes
import Scratchpad.Proofs.SessionLog
import Scratchpad.Proofs.SettingsLayers
import Scratchpad.Proofs.SourceLines
import Scratchpad.Proofs.SurfaceNames
import Scratchpad.Proofs.TextOrder
import Scratchpad.Proofs.Utf8
import Scratchpad.Proofs.WholeLines
import Scratchpad.Script.Replay
import Scratchpad.Script.Run
import Scratchpad.Script.Spans
import Scratchpad.Script.Split
import Scratchpad.Session.Commit
import Scratchpad.Session.Evaluation
import Scratchpad.Session.Outcome
import Scratchpad.Session.Start
import Scratchpad.Session.Surface
import Scratchpad.Session.Transcript
import Scratchpad.Settings
import Scratchpad.Syntax.Compile
import Scratchpad.Syntax.Expression
import Scratchpad.Syntax.Fault
import Scratchpad.Syntax.Lexer
import Scratchpad.Syntax.Literal
import Scratchpad.Syntax.Names
import Scratchpad.Syntax.Placement
import Scratchpad.Syntax.Reader
import Scratchpad.Syntax.Statement
import Scratchpad.Syntax.Token
import Scratchpad.Syntax.Tree
import Scratchpad.Text.Blank
import Scratchpad.Text.Digit
import Scratchpad.Text.Letter
import Scratchpad.Text.Lines
import Scratchpad.Text.Name
import Scratchpad.Text.Order
import Scratchpad.Text.Printable
import Scratchpad.Text.Quoted
import Scratchpad.Text.Ranges
import Scratchpad.Text.Search
import Scratchpad.Text.Utf8
import Scratchpad.Text.Width
import Scratchpad.Text.Word
import Scratchpad.Value.Arithmetic
import Scratchpad.Value.Basic
import Scratchpad.Value.Compare
import Scratchpad.Value.Complaint
import Scratchpad.Value.Field
import Scratchpad.Value.JsonText
import Scratchpad.Value.Kinds
import Scratchpad.Value.Members
import Scratchpad.Value.Show
import Scratchpad.Value.Sorting
import Scratchpad.Value.Template
import Scratchpad.World
