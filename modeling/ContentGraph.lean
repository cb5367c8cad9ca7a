import ContentGraph.Calendar.Date
import ContentGraph.Calendar.Iso
import ContentGraph.CommandLine.Option
import ContentGraph.CommandLine.Request
import ContentGraph.CommandLine.Run
import ContentGraph.Document.Error
import ContentGraph.Document.File
import ContentGraph.Document.FileName
import ContentGraph.Document.Json
import ContentGraph.Document.Yaml
import ContentGraph.Document.Yaml.Content
import ContentGraph.Document.Yaml.Cursor
import ContentGraph.Document.Yaml.Lexer
import ContentGraph.Document.Yaml.Number
import ContentGraph.Document.Yaml.Property
import ContentGraph.Document.Yaml.Scalar
import ContentGraph.Document.Yaml.Tag
import ContentGraph.Document.Yaml.Timestamp
import ContentGraph.Document.Yaml.Token
import ContentGraph.Document.Yaml.Tree
import ContentGraph.Filter.Condition
import ContentGraph.Filter.Select
import ContentGraph.Filter.Test
import ContentGraph.Inference.Column
import ContentGraph.Inference.Fields
import ContentGraph.Inference.Shape
import ContentGraph.Link.Media
import ContentGraph.Link.Path
import ContentGraph.Log
import ContentGraph.Main
import ContentGraph.Node
import ContentGraph.Node.Collection
import ContentGraph.Node.Grouping
import ContentGraph.Node.Load
import ContentGraph.Node.Slice
import ContentGraph.Number.Decimal
import ContentGraph.Number.Double
import ContentGraph.Number.Numeral
import ContentGraph.Number.Shortest
import ContentGraph.Pattern.Glob
import ContentGraph.Pattern.Regex
import ContentGraph.Pattern.Regex.Matching
import ContentGraph.Pattern.Regex.Reader
import ContentGraph.Plugin
import ContentGraph.Plugin.Schedule
import ContentGraph.Proofs.Calendar.Iso
import ContentGraph.Proofs.CommandLine.Refusal
import ContentGraph.Proofs.CommandLine.Status
import ContentGraph.Proofs.Document.Json
import ContentGraph.Proofs.Filter.Acceptance
import ContentGraph.Proofs.Filter.Advertised
import ContentGraph.Proofs.Filter.Choices
import ContentGraph.Proofs.Filter.Expressed
import ContentGraph.Proofs.Filter.Failure
import ContentGraph.Proofs.Filter.Flatten
import ContentGraph.Proofs.Filter.Leaves
import ContentGraph.Proofs.Filter.Literal
import ContentGraph.Proofs.Filter.Negation
import ContentGraph.Proofs.Filter.Rebuild
import ContentGraph.Proofs.Filter.Select
import ContentGraph.Proofs.Filter.SharedColumn
import ContentGraph.Proofs.Filter.Test
import ContentGraph.Proofs.Inference.ArgumentOrder
import ContentGraph.Proofs.Inference.Attribute
import ContentGraph.Proofs.Inference.Column
import ContentGraph.Proofs.Inference.Dates
import ContentGraph.Proofs.Inference.Describes
import ContentGraph.Proofs.Inference.Fields
import ContentGraph.Proofs.Inference.Mirror
import ContentGraph.Proofs.Inference.Order
import ContentGraph.Proofs.Inference.Retention
import ContentGraph.Proofs.Link.Path
import ContentGraph.Proofs.Node.Canonical
import ContentGraph.Proofs.Node.Children
import ContentGraph.Proofs.Node.Collection
import ContentGraph.Proofs.Node.Grouping
import ContentGraph.Proofs.Node.Lookup
import ContentGraph.Proofs.Node.Record
import ContentGraph.Proofs.Plugin.Calls
import ContentGraph.Proofs.Plugin.Failure
import ContentGraph.Proofs.Plugin.Schedule
import ContentGraph.Proofs.Reference.Empty
import ContentGraph.Proofs.Reference.Follow
import ContentGraph.Proofs.Reference.Unrelated
import ContentGraph.Proofs.Registry.Build
import ContentGraph.Proofs.Registry.Calls
import ContentGraph.Proofs.Registry.Closure
import ContentGraph.Proofs.Registry.Failure
import ContentGraph.Proofs.Registry.Independence
import ContentGraph.Proofs.Registry.Link
import ContentGraph.Proofs.Registry.LinkField
import ContentGraph.Proofs.Registry.Locality
import ContentGraph.Proofs.Registry.Lookup
import ContentGraph.Proofs.Registry.Precedence
import ContentGraph.Proofs.Registry.ReferenceName
import ContentGraph.Proofs.Registry.TypedField
import ContentGraph.Proofs.Schema.Argument
import ContentGraph.Proofs.Schema.Describes
import ContentGraph.Proofs.Schema.Field
import ContentGraph.Proofs.Schema.Merge
import ContentGraph.Proofs.Schema.Mirror
import ContentGraph.Proofs.Text.Cut
import ContentGraph.Proofs.Text.TypedName
import ContentGraph.Proofs.Text.Word
import ContentGraph.Proofs.Traversal
import ContentGraph.Proofs.Value.Symmetry
import ContentGraph.Reference.Follow
import ContentGraph.Reference.Resolution
import ContentGraph.Registry
import ContentGraph.Registry.Build
import ContentGraph.Schema.Argument
import ContentGraph.Schema.Field
import ContentGraph.Schema.Kind
import ContentGraph.Site
import ContentGraph.Site.Load
import ContentGraph.Text.Base64
import ContentGraph.Text.Case
import ContentGraph.Text.Character
import ContentGraph.Text.Class.Alphanumeric
import ContentGraph.Text.Class.Blank
import ContentGraph.Text.Class.CaseContext
import ContentGraph.Text.Class.CaseMapping
import ContentGraph.Text.Class.Digit
import ContentGraph.Text.Class.Folding
import ContentGraph.Text.Class.Identifier
import ContentGraph.Text.Class.LetterCase
import ContentGraph.Text.Class.Printable
import ContentGraph.Text.Folding
import ContentGraph.Text.Quoted
import ContentGraph.Text.Span
import ContentGraph.Text.TypedName
import ContentGraph.Text.Word
import ContentGraph.Value
import ContentGraph.Value.Display
import ContentGraph.Value.Equality
import ContentGraph.Value.Order
