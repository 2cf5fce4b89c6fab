import StepScript.Bookkeeping
import StepScript.Command.Basic
import StepScript.Command.Run
import StepScript.CommandLine.Arguments
import StepScript.CommandLine.EnvironmentFile
import StepScript.CommandLine.Program
import StepScript.Config
import StepScript.Database.Dialogue
import StepScript.Database.Scripted
import StepScript.Database.Target
import StepScript.Dialect
import StepScript.Double.Basic
import StepScript.Double.Read
import StepScript.Double.Render
import StepScript.Double.Shortest
import StepScript.Duckdb.Cell
import StepScript.Duckdb.Instance
import StepScript.Error
import StepScript.ErrorChannel
import StepScript.Expression.Comparison
import StepScript.Expression.Environment
import StepScript.Expression.Evaluator
import StepScript.Expression.Like
import StepScript.Expression.Operator
import StepScript.Expression.Reference
import StepScript.Expression.Regular
import StepScript.Files.Glob
import StepScript.Files.Machine
import StepScript.Files.Path
import StepScript.Files.Tree
import StepScript.Host
import StepScript.Integer
import StepScript.Interpreter
import StepScript.Json.Basic
import StepScript.Json.Number
import StepScript.Json.Read
import StepScript.Lock
import StepScript.Main
import StepScript.Postgres.Cell
import StepScript.Postgres.Login
import StepScript.Postgres.Numeric
import StepScript.Proofs.Command.Asking
import StepScript.Proofs.Command.Channel
import StepScript.Proofs.Command.Ensures
import StepScript.Proofs.Command.FailureDetails
import StepScript.Proofs.Command.Failures
import StepScript.Proofs.Command.Fitting
import StepScript.Proofs.Command.Frame
import StepScript.Proofs.Command.Iteration
import StepScript.Proofs.Command.RecordFilling
import StepScript.Proofs.Command.Recordsets
import StepScript.Proofs.Command.Turns
import StepScript.Proofs.Database.Dialogue
import StepScript.Proofs.Database.Sessions
import StepScript.Proofs.Database.Spellings
import StepScript.Proofs.Database.Values
import StepScript.Proofs.Expression.Argument
import StepScript.Proofs.Expression.Delimiters
import StepScript.Proofs.Expression.EnvironmentReferences
import StepScript.Proofs.Expression.FieldReferences
import StepScript.Proofs.Expression.Filling
import StepScript.Proofs.Expression.InjectionCheck
import StepScript.Proofs.Expression.Insertion
import StepScript.Proofs.Expression.LikeExpression
import StepScript.Proofs.Expression.Literal
import StepScript.Proofs.Expression.LiteralTokens
import StepScript.Proofs.Expression.Orderings
import StepScript.Proofs.Expression.PatternMatching
import StepScript.Proofs.Expression.Reevaluation
import StepScript.Proofs.Expression.TimestampText
import StepScript.Proofs.Integer
import StepScript.Proofs.Interpreter.Account
import StepScript.Proofs.Interpreter.ControlFlow
import StepScript.Proofs.Interpreter.FailedRecord
import StepScript.Proofs.Interpreter.Handling
import StepScript.Proofs.Interpreter.Journal
import StepScript.Proofs.Interpreter.Names
import StepScript.Proofs.Interpreter.Soundness
import StepScript.Proofs.Lock.Exclusion
import StepScript.Proofs.Lock.History
import StepScript.Proofs.Lock.Invariant
import StepScript.Proofs.Lock.Points
import StepScript.Proofs.Lock.Statements
import StepScript.Proofs.Lock.System
import StepScript.Proofs.Outcome
import StepScript.Proofs.Postgres.Numeric
import StepScript.Proofs.Postgres.NumericOctets
import StepScript.Proofs.Registration
import StepScript.Proofs.Registry
import StepScript.Proofs.Repository
import StepScript.Proofs.Statement.Printing
import StepScript.Proofs.Statement.Reading
import StepScript.Proofs.Text.Character
import StepScript.Proofs.Text.Search
import StepScript.Proofs.Timestamp.Instants
import StepScript.Proofs.Token
import StepScript.Proofs.Token.Machine
import StepScript.Proofs.Token.Segmentation
import StepScript.Proofs.Transform.Bracketing
import StepScript.Proofs.Transform.Course
import StepScript.Proofs.Transform.Detection
import StepScript.Proofs.Transform.Preparation
import StepScript.Proofs.Transform.Reports
import StepScript.Proofs.Transform.Sessions
import StepScript.Recordset
import StepScript.Registry
import StepScript.Repository
import StepScript.Statement
import StepScript.Step
import StepScript.Table
import StepScript.Text.Blank
import StepScript.Text.Letter
import StepScript.Text.Quoted
import StepScript.Text.Ranges
import StepScript.Text.Search
import StepScript.Text.Utf8
import StepScript.Text.Word
import StepScript.Timestamp.Basic
import StepScript.Timestamp.Read
import StepScript.Timestamp.Render
import StepScript.Token
import StepScript.Transform
import StepScript.Value
