import SessionScript.Calendar
import SessionScript.Code.Escape
import SessionScript.Code.Expr
import SessionScript.Code.Names
import SessionScript.Code.Printer
import SessionScript.Code.Program
import SessionScript.Code.Rules
import SessionScript.Code.Stmt
import SessionScript.Code.Token
import SessionScript.Code.Token.Lexer
import SessionScript.Code.Tree
import SessionScript.CommandLine.Request
import SessionScript.CommandLine.Run
import SessionScript.CommandLine.Usage
import SessionScript.CommandLine.Words
import SessionScript.Decimal.Arithmetic
import SessionScript.Decimal.Binary64
import SessionScript.Decimal.Layout
import SessionScript.Decimal.Numeral
import SessionScript.Decimal.Power
import SessionScript.Decimal.Rounded
import SessionScript.Decimal.Shortest
import SessionScript.Emitter
import SessionScript.Evaluator.Args
import SessionScript.Evaluator.Arithmetic
import SessionScript.Evaluator.Builtin
import SessionScript.Evaluator.Calling
import SessionScript.Evaluator.Compare
import SessionScript.Evaluator.Datum
import SessionScript.Evaluator.ErrorKind
import SessionScript.Evaluator.Eval
import SessionScript.Evaluator.Exchange
import SessionScript.Evaluator.Format.Fields
import SessionScript.Evaluator.Format.Number
import SessionScript.Evaluator.Format.Percent
import SessionScript.Evaluator.Format.Spec
import SessionScript.Evaluator.Item
import SessionScript.Evaluator.Key
import SessionScript.Evaluator.Method.Container
import SessionScript.Evaluator.Method.Scalar
import SessionScript.Evaluator.Method.Text
import SessionScript.Evaluator.Run
import SessionScript.Evaluator.Scope
import SessionScript.Evaluator.Shown
import SessionScript.Failure
import SessionScript.Failure.Code
import SessionScript.Functions.Code
import SessionScript.Functions.Random
import SessionScript.Json
import SessionScript.Log
import SessionScript.Main
import SessionScript.Report
import SessionScript.Scenario.Basic
import SessionScript.Scenario.Reader
import SessionScript.Scenario.Source
import SessionScript.Schema.Description
import SessionScript.Schema.Reader
import SessionScript.Schema.Report
import SessionScript.Schema.Violation
import SessionScript.Session.Context
import SessionScript.Session.Run
import SessionScript.Session.Step
import SessionScript.Session.World
import SessionScript.Settings
import SessionScript.Template.Call
import SessionScript.Template.Marker
import SessionScript.Template.Path
import SessionScript.Template.Resolve
import SessionScript.Text.Base64
import SessionScript.Text.Blank
import SessionScript.Text.Case
import SessionScript.Text.Digits
import SessionScript.Text.FilePath
import SessionScript.Text.Identifier
import SessionScript.Text.Lines
import SessionScript.Text.Numeral
import SessionScript.Text.NormalForm
import SessionScript.Text.Parts
import SessionScript.Text.Ranges
import SessionScript.Text.Quoted
import SessionScript.Text.Similar
import SessionScript.Text.Split
import SessionScript.Text.Utf8
import SessionScript.Value.Basic
import SessionScript.Value.Integer
import SessionScript.Value.Shown
import SessionScript.Yaml.Canvas
import SessionScript.Yaml.Chars
import SessionScript.Yaml.Cursor
import SessionScript.Yaml.Fault
import SessionScript.Yaml.Node
import SessionScript.Yaml.Node.Reader
import SessionScript.Yaml.Node.Scalar
import SessionScript.Yaml.Node.Value
import SessionScript.Yaml.Plain
import SessionScript.Yaml.Scalar
import SessionScript.Yaml.Timestamp
import SessionScript.Yaml.Token
import SessionScript.Yaml.Token.Scalars
import SessionScript.Yaml.Token.Stream
import SessionScript.Yaml.Writer
import SessionScript.Proofs.Session.Simulation
import SessionScript.Proofs.Template.Failing
import SessionScript.Proofs.Session.Paths
import SessionScript.Proofs.Session.Connections
import SessionScript.Proofs.Session.Sequence
import SessionScript.Proofs.Session.Events
import SessionScript.Proofs.Json.Reader
import SessionScript.Proofs.Json.RoundTrip
import SessionScript.Proofs.Session.Messages
import SessionScript.Proofs.Session.Respects
import SessionScript.Proofs.Session.Tracks
import SessionScript.Proofs.Session.Cleanup
import SessionScript.Proofs.Session.Reports
import SessionScript.Proofs.Template.Logging
import SessionScript.Proofs.Session.Lifecycle
import SessionScript.Proofs.Decimal.Shortest
import SessionScript.Proofs.Json.Number
import SessionScript.Proofs.Schema.Payload
import SessionScript.Proofs.Json.Validity
import SessionScript.Proofs.Session.Payloads
import SessionScript.Proofs.Session.Moves
import SessionScript.Proofs.Schema.Element
import SessionScript.Proofs.Functions.Table
import SessionScript.Proofs.Session.Counts
import SessionScript.Proofs.Session.Moments
import SessionScript.Proofs.Session.Balance
import SessionScript.Proofs.Value.Leaves
import SessionScript.Proofs.Template.Settling
import SessionScript.Proofs.Template.Blindness
import SessionScript.Proofs.Template.Names
import SessionScript.Proofs.Code.Calls
import SessionScript.Proofs.Template.Invocation
import SessionScript.Proofs.Template.Progress
import SessionScript.Proofs.Template.Sites
import SessionScript.Proofs.Template.Order
import SessionScript.Proofs.Template.Fate
import SessionScript.Proofs.Template.Termination
import SessionScript.Proofs.Template.Interpolation
import SessionScript.Proofs.Emitter
import SessionScript.Proofs.Session.Listeners
import SessionScript.Proofs.Evaluator.Agreement
import SessionScript.Proofs.Evaluator.Alike
import SessionScript.Proofs.Evaluator.Calls
import SessionScript.Proofs.Evaluator.Isolation
import SessionScript.Proofs.Json.Rendering
import SessionScript.Proofs.Template.Rendering
import SessionScript.Proofs.Template.Traversal
import SessionScript.Proofs.Schema.Violations
import SessionScript.Proofs.Schema.Trails
import SessionScript.Proofs.Schema.DocumentPath
import SessionScript.Proofs.Schema.Fidelity
import SessionScript.Proofs.Json.Containers
import SessionScript.Proofs.Evaluator.Representation
import SessionScript.Proofs.Functions.Parameters
import SessionScript.Proofs.Text.Parts
import SessionScript.Proofs.Text.IdentifierPoints
import SessionScript.Proofs.Text.NormalForm
import SessionScript.Proofs.Code.Lexing
import SessionScript.Proofs.Code.Quoting
import SessionScript.Proofs.Code.Arguments
import SessionScript.Proofs.Code.Words
import SessionScript.Proofs.Template.Printing
import SessionScript.Proofs.Emitter.Deliveries
import SessionScript.Proofs.Yaml.Writing
import SessionScript.Proofs.Report
import SessionScript.Proofs.Yaml.Reading
import SessionScript.Proofs.CommandLine.Variables
import SessionScript.Proofs.Schema.Sources
import SessionScript.Proofs.Template.Addresses
import SessionScript.Proofs.Template.Search
import SessionScript.Proofs.Template.Idempotence
import SessionScript.Proofs.Report.Elements
