import TableCodegen.Catalog.Column
import TableCodegen.Catalog.Grouping
import TableCodegen.Catalog.Row
import TableCodegen.Catalog.Snapshot
import TableCodegen.Catalog.Table
import TableCodegen.CommandLine.Command
import TableCodegen.CommandLine.Execution
import TableCodegen.CommandLine.Flag
import TableCodegen.CommandLine.Given
import TableCodegen.Config.Basic
import TableCodegen.Config.Check
import TableCodegen.Config.Document
import TableCodegen.Data.Decode
import TableCodegen.Data.Format
import TableCodegen.Data.Json
import TableCodegen.Data.Loose
import TableCodegen.Data.Resolve
import TableCodegen.Data.Toml.Document
import TableCodegen.Data.Toml.Render
import TableCodegen.Data.Toml.Scalar
import TableCodegen.Data.Toml.Table
import TableCodegen.Data.Tree
import TableCodegen.Data.Yaml.Document
import TableCodegen.Data.Yaml.Lexer
import TableCodegen.Data.Yaml.Node
import TableCodegen.Data.Yaml.Render
import TableCodegen.Data.Yaml.Scalar
import TableCodegen.Data.Yaml.Style
import TableCodegen.Data.Yaml.Tag
import TableCodegen.Data.Yaml.Token
import TableCodegen.Document.Gist
import TableCodegen.Document.Gist.Conversion
import TableCodegen.Document.Gist.Request
import TableCodegen.Document.Line
import TableCodegen.Document.Model
import TableCodegen.Document.Render
import TableCodegen.Document.Route
import TableCodegen.Document.Route.Member
import TableCodegen.Document.Route.Text
import TableCodegen.Entity
import TableCodegen.Failure
import TableCodegen.Field.Basic
import TableCodegen.Field.View
import TableCodegen.File.Path
import TableCodegen.File.Stored
import TableCodegen.File.Tree
import TableCodegen.Formatter
import TableCodegen.Formatter.Program
import TableCodegen.Layout.Block
import TableCodegen.Layout.Delimiter
import TableCodegen.Layout.Pass
import TableCodegen.Logging
import TableCodegen.Main
import TableCodegen.MemberType.Basic
import TableCodegen.MemberType.OfColumn
import TableCodegen.Naming.Camel
import TableCodegen.Naming.Initialism
import TableCodegen.Naming.Plural
import TableCodegen.Naming.Words
import TableCodegen.Project
import TableCodegen.Proofs.Layout.CodeDelimiter
import TableCodegen.Proofs.MemberType
import TableCodegen.Proofs.Layout.BalancedWord
import TableCodegen.Remark
import TableCodegen.Run
import TableCodegen.Tag.Dialect
import TableCodegen.Text.Ascii
import TableCodegen.Text.Blank
import TableCodegen.Text.Literal
import TableCodegen.Text.Search
import TableCodegen.Text.Unicode.Case
import TableCodegen.Text.Unicode.CaseTables
import TableCodegen.Text.Unicode.Letters
import TableCodegen.Text.Unicode.Span
import TableCodegen.Text.Unicode.Visible
import TableCodegen.Text.Utf8
import TableCodegen.Proofs.Field.View
import TableCodegen.Proofs.Field.Keyword
import TableCodegen.Proofs.Gist.Omission
import TableCodegen.Proofs.Document.Request
import TableCodegen.Proofs.Gist.Reading
import TableCodegen.Proofs.Gist.Conversion
import TableCodegen.Proofs.Gist.Signedness
import TableCodegen.Proofs.Text.Blank
import TableCodegen.Proofs.Text.Search
import TableCodegen.Proofs.Text.Line
import TableCodegen.Proofs.Text.Capital
import TableCodegen.Proofs.Layout.CodePart
import TableCodegen.Proofs.Layout.BlockLine
import TableCodegen.Proofs.Layout.Outline
import TableCodegen.Proofs.Layout.LineSides
import TableCodegen.Proofs.Layout.Preservation
import TableCodegen.Proofs.Layout.Stability
import TableCodegen.Proofs.Layout.TextEnds
import TableCodegen.Proofs.Layout.Idempotence
import TableCodegen.Proofs.Layout.LineShape
import TableCodegen.Proofs.Layout.Comment
import TableCodegen.Proofs.Layout.Nesting
import TableCodegen.Proofs.Layout.Keyword
import TableCodegen.Proofs.Text.Mark
import TableCodegen.Proofs.Text.Word
import TableCodegen.Proofs.Naming.Derived
import TableCodegen.Proofs.Layout.Fragment
import TableCodegen.Proofs.Layout.WellNested
import TableCodegen.Proofs.Document.RouteLines
import TableCodegen.Proofs.Document.RouteNames
import TableCodegen.Proofs.Document.Comments
import TableCodegen.Proofs.Layout.NestedOutline
import TableCodegen.Proofs.Document.RouteLayout
import TableCodegen.Proofs.File.Target
import TableCodegen.Proofs.Run.Returns
import TableCodegen.Proofs.Run.Written
import TableCodegen.Proofs.Project.Outcome
import TableCodegen.Proofs.Project.Paths
import TableCodegen.Proofs.Project.Progress
import TableCodegen.Proofs.Project.Snapshot
import TableCodegen.Proofs.Catalog.RowOrder
import TableCodegen.Proofs.Document.DeclaredNames
import TableCodegen.Proofs.Project.Names
import TableCodegen.Proofs.Run.Fails
import TableCodegen.Proofs.Run.Leads
import TableCodegen.Proofs.Project.Table
import TableCodegen.Proofs.Project.Whole
import TableCodegen.Proofs.Run.Moves
import TableCodegen.Proofs.Project.Calls
import TableCodegen.Proofs.Project.Stopped
import TableCodegen.Proofs.Layout.Contents
import TableCodegen.Proofs.Document.Imports
import TableCodegen.Proofs.Document.Packages
import TableCodegen.Proofs.Document.IndexLists
import TableCodegen.Proofs.Project.Report
import TableCodegen.Proofs.Tag.Literal
import TableCodegen.Proofs.Tag.Reading
import TableCodegen.Proofs.Tag.Dialect
import TableCodegen.Proofs.Tag.GormContent
import TableCodegen.Proofs.Document.Modes
import TableCodegen.Proofs.Document.PathParameters
import TableCodegen.Proofs.Data.Shown
import TableCodegen.Proofs.Config.Document
import TableCodegen.Proofs.Catalog.Snapshot
import TableCodegen.Proofs.Data.Json
import TableCodegen.Proofs.Data.RoundTrip
import TableCodegen.Proofs.Gist.NilTest
import TableCodegen.Proofs.Catalog.Grouping
import TableCodegen.Proofs.Catalog.IndexOrder
import TableCodegen.Proofs.Document.AllowedValues
import TableCodegen.Proofs.Document.DistinctMembers
import TableCodegen.Proofs.Document.GroupingMethods
import TableCodegen.Proofs.Layout.UnclosedOpener
import TableCodegen.Proofs.Layout.CommentStart
import TableCodegen.Proofs.Layout.BlankLine
import TableCodegen.Proofs.Layout.FormatterPass
import TableCodegen.Proofs.Remark
import TableCodegen.Proofs.CommandLine.Merge
import TableCodegen.Proofs.Naming.CapitalWords
import TableCodegen.Proofs.Naming.ExportedName
import TableCodegen.Proofs.Naming.Initialism
import TableCodegen.Proofs.Gist.Variable
import TableCodegen.Proofs.Document.QuotedText
import TableCodegen.Proofs.Document.CommentTexts
import TableCodegen.Proofs.Document.LineBreaks
import TableCodegen.Proofs.Naming.Replacement
import TableCodegen.Proofs.Project.TablePrefix
