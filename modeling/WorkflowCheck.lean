import WorkflowCheck.Command.Arguments
import WorkflowCheck.Command.Log
import WorkflowCheck.Command.Run
import WorkflowCheck.Decode.Checked
import WorkflowCheck.Decode.Problem
import WorkflowCheck.Decode.Record
import WorkflowCheck.Decode.Scalar
import WorkflowCheck.Files.Load
import WorkflowCheck.Files.Path
import WorkflowCheck.Files.Tree
import WorkflowCheck.Flow.Content
import WorkflowCheck.Flow.Convert
import WorkflowCheck.Flow.Edit
import WorkflowCheck.Flow.Editor
import WorkflowCheck.Flow.Id
import WorkflowCheck.Flow.Part
import WorkflowCheck.Flow.Restore
import WorkflowCheck.Flow.Schema
import WorkflowCheck.Flow.Session
import WorkflowCheck.Flow.Shape
import WorkflowCheck.Flow.Stored
import WorkflowCheck.Flow.View
import WorkflowCheck.Flow.Vocabulary
import WorkflowCheck.Graph.Snapshot
import WorkflowCheck.Graph.Walk
import WorkflowCheck.Issue
import WorkflowCheck.Json.Printer
import WorkflowCheck.Json.Reader
import WorkflowCheck.Json.Token
import WorkflowCheck.Lint
import WorkflowCheck.Main
import WorkflowCheck.Number.Digits
import WorkflowCheck.Number.Double
import WorkflowCheck.Number.Numeral
import WorkflowCheck.Number.Shortest
import WorkflowCheck.Proofs.Command.Status
import WorkflowCheck.Proofs.Command.Words
import WorkflowCheck.Proofs.Decode.ReadBack
import WorkflowCheck.Proofs.Decode.ReadsAs
import WorkflowCheck.Proofs.Flow.Agrees
import WorkflowCheck.Proofs.Flow.Canvas
import WorkflowCheck.Proofs.Flow.EdgeId
import WorkflowCheck.Proofs.Flow.FreshId
import WorkflowCheck.Proofs.Flow.Handle
import WorkflowCheck.Proofs.Flow.Plain
import WorkflowCheck.Proofs.Flow.Projection
import WorkflowCheck.Proofs.Flow.ReadBack
import WorkflowCheck.Proofs.Flow.Restore
import WorkflowCheck.Proofs.Flow.SameContent
import WorkflowCheck.Proofs.Flow.Schema
import WorkflowCheck.Proofs.Flow.Tidy
import WorkflowCheck.Proofs.Flow.Views
import WorkflowCheck.Proofs.Graph.Circles
import WorkflowCheck.Proofs.Graph.Index
import WorkflowCheck.Proofs.Graph.Place
import WorkflowCheck.Proofs.Graph.Reach
import WorkflowCheck.Proofs.Graph.Recursive
import WorkflowCheck.Proofs.Graph.Renamed
import WorkflowCheck.Proofs.Graph.Turns
import WorkflowCheck.Proofs.Graph.Verdict
import WorkflowCheck.Proofs.Graph.Walk
import WorkflowCheck.Proofs.Json.ReadBack
import WorkflowCheck.Proofs.Json.Strings
import WorkflowCheck.Proofs.Lint.Alike
import WorkflowCheck.Proofs.Lint.Blocks
import WorkflowCheck.Proofs.Lint.Clashes
import WorkflowCheck.Proofs.Lint.Clean
import WorkflowCheck.Proofs.Lint.Counted
import WorkflowCheck.Proofs.Lint.Exact
import WorkflowCheck.Proofs.Lint.Failure
import WorkflowCheck.Proofs.Lint.Handles
import WorkflowCheck.Proofs.Lint.Located
import WorkflowCheck.Proofs.Lint.Marks
import WorkflowCheck.Proofs.Lint.MoreEdges
import WorkflowCheck.Proofs.Lint.Nested
import WorkflowCheck.Proofs.Lint.NewIds
import WorkflowCheck.Proofs.Lint.Order
import WorkflowCheck.Proofs.Lint.Overlap
import WorkflowCheck.Proofs.Lint.Raw
import WorkflowCheck.Proofs.Lint.Renamed
import WorkflowCheck.Proofs.Lint.Reordered
import WorkflowCheck.Proofs.Lint.Repeats
import WorkflowCheck.Proofs.Lint.Reported
import WorkflowCheck.Proofs.Lint.Required
import WorkflowCheck.Proofs.Lint.Saved
import WorkflowCheck.Proofs.Lint.Shaped
import WorkflowCheck.Proofs.Lint.Switches
import WorkflowCheck.Proofs.Lint.Unknown
import WorkflowCheck.Proofs.Lint.WellFormed
import WorkflowCheck.Proofs.Lint.Widened
import WorkflowCheck.Proofs.Lint.Written
import WorkflowCheck.Proofs.Number.Range
import WorkflowCheck.Proofs.Registry.Bulk
import WorkflowCheck.Proofs.Registry.Construction
import WorkflowCheck.Proofs.Registry.Printed
import WorkflowCheck.Proofs.Rules.Tag
import WorkflowCheck.Proofs.Rules.Version
import WorkflowCheck.Proofs.Value.Change
import WorkflowCheck.Proofs.Value.Equivalence
import WorkflowCheck.Proofs.Value.Field
import WorkflowCheck.Proofs.Value.Same
import WorkflowCheck.Proofs.Value.Showable
import WorkflowCheck.Proofs.Yaml.Contents
import WorkflowCheck.Proofs.Yaml.Lexer
import WorkflowCheck.Proofs.Yaml.Nodes
import WorkflowCheck.Proofs.Yaml.ReadBack
import WorkflowCheck.Proofs.Yaml.Scalar
import WorkflowCheck.Proofs.Yaml.Tokens
import WorkflowCheck.Registry.Basic
import WorkflowCheck.Registry.Builtin
import WorkflowCheck.Registry.Contract
import WorkflowCheck.Registry.Lookup
import WorkflowCheck.Rules.Edge
import WorkflowCheck.Rules.Graph
import WorkflowCheck.Rules.Node
import WorkflowCheck.Rules.Options
import WorkflowCheck.Rules.Version
import WorkflowCheck.Settings.Basic
import WorkflowCheck.Settings.Dotenv
import WorkflowCheck.Settings.Sources
import WorkflowCheck.Table
import WorkflowCheck.Text.Base64
import WorkflowCheck.Text.Blank
import WorkflowCheck.Text.Cased
import WorkflowCheck.Text.Digit
import WorkflowCheck.Text.Lines
import WorkflowCheck.Text.Lower
import WorkflowCheck.Text.Portion
import WorkflowCheck.Text.Printable
import WorkflowCheck.Text.Quoted
import WorkflowCheck.Text.Sorted
import WorkflowCheck.Text.Surrogate
import WorkflowCheck.Value.Basic
import WorkflowCheck.Value.Display
import WorkflowCheck.Value.Moment
import WorkflowCheck.Value.Same
import WorkflowCheck.Yaml.Char
import WorkflowCheck.Yaml.Content
import WorkflowCheck.Yaml.Document
import WorkflowCheck.Yaml.Fault
import WorkflowCheck.Yaml.Merge
import WorkflowCheck.Yaml.Node
import WorkflowCheck.Yaml.Scalar
import WorkflowCheck.Yaml.Tag
import WorkflowCheck.Yaml.Tagged
import WorkflowCheck.Yaml.Token
