import EventRules.CommandLine.Basic
import EventRules.CommandLine.Fault
import EventRules.CommandLine.Parse
import EventRules.CommandLine.Usage
import EventRules.Decode.Cause
import EventRules.Decode.Source
import EventRules.Decode.Tree
import EventRules.Evaluation.Join
import EventRules.Evaluation.Prepare
import EventRules.Evaluation.Reaction
import EventRules.Evaluation.Rounds
import EventRules.Event.Basic
import EventRules.Event.Decode
import EventRules.Event.Encode
import EventRules.Json.Basic
import EventRules.Json.Cursor
import EventRules.Json.Fields
import EventRules.Json.Printer
import EventRules.Json.Text.Document
import EventRules.Json.Text.Literal
import EventRules.Json.Text.Numeral
import EventRules.Json.Text.Value
import EventRules.Log
import EventRules.LogFilter
import EventRules.Main
import EventRules.Number.Binary64
import EventRules.Number.Numeral
import EventRules.Number.Shortest
import EventRules.Occurrence
import EventRules.Payload.Basic
import EventRules.Payload.Classify
import EventRules.Proofs.CommandLine.Variables
import EventRules.Proofs.Decode.Document
import EventRules.Proofs.Decode.Gather
import EventRules.Proofs.Decode.Lawful
import EventRules.Proofs.Decode.Refine
import EventRules.Proofs.Evaluation.Aggregation
import EventRules.Proofs.Evaluation.Beside
import EventRules.Proofs.Evaluation.Calls
import EventRules.Proofs.Evaluation.Completion
import EventRules.Proofs.Evaluation.Conclusion
import EventRules.Proofs.Evaluation.Crowd
import EventRules.Proofs.Evaluation.ExactKey
import EventRules.Proofs.Evaluation.FirstMatch
import EventRules.Proofs.Evaluation.History
import EventRules.Proofs.Evaluation.Isolation
import EventRules.Proofs.Evaluation.Lockstep
import EventRules.Proofs.Evaluation.Origin
import EventRules.Proofs.Evaluation.Passage
import EventRules.Proofs.Evaluation.Polls
import EventRules.Proofs.Evaluation.Prediction
import EventRules.Proofs.Evaluation.Run
import EventRules.Proofs.Evaluation.Scheduling
import EventRules.Proofs.Evaluation.Simulation
import EventRules.Proofs.Evaluation.Target
import EventRules.Proofs.Evaluation.Track
import EventRules.Proofs.Evaluation.Trial
import EventRules.Proofs.Evaluation.Turns
import EventRules.Proofs.Evaluation.Unwinding
import EventRules.Proofs.Evaluation.Validity
import EventRules.Proofs.Event.Batch
import EventRules.Proofs.Event.RoundTrip
import EventRules.Proofs.Event.Verbatim
import EventRules.Proofs.Event.Wire
import EventRules.Proofs.Json.Canonical
import EventRules.Proofs.Json.Depth
import EventRules.Proofs.Json.Fields
import EventRules.Proofs.Json.Place
import EventRules.Proofs.Json.Reader
import EventRules.Proofs.Json.Standing
import EventRules.Proofs.Number.Decimal
import EventRules.Proofs.Number.Integer
import EventRules.Proofs.Number.Interval
import EventRules.Proofs.Number.Nearest
import EventRules.Proofs.Number.Numeral
import EventRules.Proofs.Number.Shortest
import EventRules.Proofs.Number.Spelling
import EventRules.Proofs.Outcome
import EventRules.Proofs.Payload.Action
import EventRules.Proofs.Payload.Shape
import EventRules.Proofs.Payload.WireForm
import EventRules.Proofs.Remote.Authorization
import EventRules.Proofs.Remote.Body
import EventRules.Proofs.Remote.Dispatch
import EventRules.Proofs.Remote.Endpoint
import EventRules.Proofs.Remote.Exchange
import EventRules.Proofs.Remote.Expansion
import EventRules.Proofs.Remote.Preview
import EventRules.Proofs.Rule.Comparison
import EventRules.Proofs.Rule.Identity
import EventRules.Proofs.Rule.Integers
import EventRules.Proofs.Rule.Report
import EventRules.Proofs.Rule.Sameness
import EventRules.Proofs.Rule.Threads
import EventRules.Proofs.Settings.Key
import EventRules.Proofs.Settings.Precedence
import EventRules.Proofs.Settings.Stretch
import EventRules.Proofs.Settings.Supply
import EventRules.Proofs.Template.Blend
import EventRules.Proofs.Template.Conversion
import EventRules.Proofs.Template.Cursor
import EventRules.Proofs.Template.Kind
import EventRules.Proofs.Template.Leaf
import EventRules.Proofs.Template.Lexing
import EventRules.Proofs.Template.Lines
import EventRules.Proofs.Template.Mirror
import EventRules.Proofs.Template.Output
import EventRules.Proofs.Template.Parsing
import EventRules.Proofs.Template.Precedence
import EventRules.Proofs.Template.Reference
import EventRules.Proofs.Template.Scanning
import EventRules.Proofs.Template.Shape
import EventRules.Proofs.Template.Texts
import EventRules.Proofs.Text.Blank
import EventRules.Proofs.Text.Bytes
import EventRules.Proofs.Url.Append
import EventRules.Proofs.Url.Segment
import EventRules.Proofs.Worker.Account
import EventRules.Proofs.Worker.Configuration
import EventRules.Proofs.Worker.Secrecy
import EventRules.Proofs.Worker.Simulation
import EventRules.Proofs.Worker.Validation
import EventRules.Proofs.Yaml.Answers
import EventRules.Remote.Api
import EventRules.Remote.Basic
import EventRules.Remote.Dispatch
import EventRules.Remote.DryRun
import EventRules.Remote.Http
import EventRules.Remote.Scripted
import EventRules.Remote.Wire
import EventRules.Rule.Basic
import EventRules.Rule.Condition
import EventRules.Rule.Fault
import EventRules.Rule.Installed
import EventRules.Rule.Operator
import EventRules.Rule.Report
import EventRules.Rule.Table
import EventRules.Settings.Assignments
import EventRules.Settings.Basic
import EventRules.Settings.Reference
import EventRules.Template.Arguments
import EventRules.Template.Expression
import EventRules.Template.Fault
import EventRules.Template.Filter.Number
import EventRules.Template.Filter.Select
import EventRules.Template.Filter.Sequence
import EventRules.Template.Filter.Text
import EventRules.Template.Function
import EventRules.Template.Grammar
import EventRules.Template.Leaf
import EventRules.Template.Output
import EventRules.Template.Run.Call
import EventRules.Template.Run.Expression
import EventRules.Template.Run.Statement
import EventRules.Template.Scope
import EventRules.Template.Test
import EventRules.Template.Token.Basic
import EventRules.Template.Token.Literal
import EventRules.Template.Token.Tokens
import EventRules.Template.Value.Arithmetic
import EventRules.Template.Value.Basic
import EventRules.Template.Value.Order
import EventRules.Template.Value.Sequence
import EventRules.Template.Value.Text
import EventRules.Template.Value.ToJson
import EventRules.Text.Basic
import EventRules.Text.Case
import EventRules.Text.CaseTable
import EventRules.Text.LetterTable
import EventRules.Text.Quoted
import EventRules.Text.Similar
import EventRules.Url.Basic
import EventRules.Url.Domain
import EventRules.Url.Host
import EventRules.Url.OfText
import EventRules.Url.Path
import EventRules.Url.Percent
import EventRules.Url.Punycode
import EventRules.Worker.Events
import EventRules.Worker.Options
import EventRules.Worker.Run
import EventRules.Worker.Session
import EventRules.Yaml.Event.Basic
import EventRules.Yaml.Event.Grammar
import EventRules.Yaml.Malformed
import EventRules.Yaml.Node
import EventRules.Yaml.Reader
import EventRules.Yaml.Scalar
import EventRules.Yaml.Token.Basic
import EventRules.Yaml.Token.Name
import EventRules.Yaml.Token.Scalar
import EventRules.Yaml.Token.Tokens
