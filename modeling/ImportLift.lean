import ImportLift.Text.Basic
import ImportLift.Text.Blank
import ImportLift.Text.Lines
import ImportLift.Text.Word
import ImportLift.Text.Case
import ImportLift.Text.Fold
import ImportLift.Pattern.Basic
import ImportLift.Pattern.Search
import ImportLift.Rule
import ImportLift.Failure
import ImportLift.Component
import ImportLift.Span
import ImportLift.Harvest
import ImportLift.Template
import ImportLift.Path
import ImportLift.Options
import ImportLift.Import
import ImportLift.Layout
import ImportLift.Module
import ImportLift.Conversion
import ImportLift.Text.Hidden
import ImportLift.Text.Digit
import ImportLift.Text.Quoted
import ImportLift.Text.Utf8
import ImportLift.FileTree
import ImportLift.Binary64
import ImportLift.Integer
import ImportLift.Decimal
import ImportLift.Text.Base64
import ImportLift.Data
import ImportLift.Json
import ImportLift.Json.Encoding
import ImportLift.Layout.Choice
import ImportLift.Yaml.Source
import ImportLift.Yaml.Scalar
import ImportLift.Yaml.Token
import ImportLift.Yaml.Tag
import ImportLift.Yaml.Fault
import ImportLift.Yaml.Graph
import ImportLift.Yaml.Graph.Reader
import ImportLift.Yaml.Value
import ImportLift.Yaml.Document
import ImportLift.Settings
import ImportLift.Glob
import ImportLift.Scan
import ImportLift.Diff.Edit
import ImportLift.Diff.Unified
import ImportLift.Journal
import ImportLift.Conversion.Notes
import ImportLift.Migration
import ImportLift.CommandLine.Word
import ImportLift.CommandLine
import ImportLift.CommandLine.Run
import ImportLift.Service.Target
import ImportLift.Service.Request
import ImportLift.Service
import ImportLift.Json.Printer
import ImportLift.Main
import ImportLift.Proofs.Pattern.Reach
import ImportLift.Proofs.Span
import ImportLift.Proofs.Pattern.Matches
import ImportLift.Proofs.Pattern.Extension
import ImportLift.Proofs.Module
import ImportLift.Proofs.Component
import ImportLift.Proofs.Conversion
import ImportLift.Proofs.FileTree
import ImportLift.Proofs.Migration.Pair
import ImportLift.Proofs.Text.Case
import ImportLift.Proofs.Path
import ImportLift.Proofs.Scan
import ImportLift.Proofs.Migration.Prediction
import ImportLift.Proofs.Literal
import ImportLift.Proofs.Text.Fold
import ImportLift.Proofs.Pattern.Place
import ImportLift.Proofs.Pattern.Segments
import ImportLift.Proofs.Pattern.Element
import ImportLift.Proofs.Harvest
import ImportLift.Proofs.Text.Blank
import ImportLift.Proofs.Template
import ImportLift.Proofs.Collision
import ImportLift.Proofs.Migration.Run
import ImportLift.Proofs.Migration.Exclusion
import ImportLift.Proofs.Migration.Completion
import ImportLift.Proofs.Migration.Retry
import ImportLift.Proofs.Text.Mark
import ImportLift.Proofs.Binding
import ImportLift.Proofs.Import
import ImportLift.Proofs.Conversion.Header
import ImportLift.Proofs.Conversion.ImportBlock
import ImportLift.Proofs.Conversion.Inline
import ImportLift.Proofs.Harvest.Excision
import ImportLift.Proofs.Template.Boundary
import ImportLift.Proofs.Pattern.Cover
import ImportLift.Proofs.Component.Accessor
import ImportLift.Proofs.Link
import ImportLift.Proofs.Text.Replace
import ImportLift.Proofs.Component.Directive
import ImportLift.Proofs.Component.Head
import ImportLift.Proofs.Text.Token
import ImportLift.Proofs.Import.Library
import ImportLift.Proofs.Conversion.OwnScript
import ImportLift.Proofs.Migration.SingleFile
import ImportLift.Proofs.Template.Style
import ImportLift.Proofs.Settings
import ImportLift.Proofs.Diff.Edit
import ImportLift.Proofs.Diff.Patch
import ImportLift.Proofs.Text.Lines
import ImportLift.Proofs.Harvest.Dedent
