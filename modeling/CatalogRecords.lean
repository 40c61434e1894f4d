import CatalogRecords.Calendar.Date
import CatalogRecords.Calendar.Format
import CatalogRecords.Calendar.Reading
import CatalogRecords.CommandLine.Arguments
import CatalogRecords.CommandLine.Documents
import CatalogRecords.CommandLine.Queries
import CatalogRecords.CommandLine.Run
import CatalogRecords.CommandLine.Session
import CatalogRecords.CommandLine.Terms
import CatalogRecords.Configuration
import CatalogRecords.Data
import CatalogRecords.Data.Record
import CatalogRecords.Dictionary.Basic
import CatalogRecords.Dictionary.Seed
import CatalogRecords.Dictionary.SeedFiles
import CatalogRecords.Dictionary.TablePrefix
import CatalogRecords.Dictionary.TermDatabase
import CatalogRecords.Dictionary.TermTable
import CatalogRecords.Dictionary.Wildcard
import CatalogRecords.Document.Basic
import CatalogRecords.Document.Content
import CatalogRecords.Document.Encoding
import CatalogRecords.Document.Validation
import CatalogRecords.Files.DatabaseText
import CatalogRecords.Files.Error
import CatalogRecords.Files.Format
import CatalogRecords.Files.Workspace
import CatalogRecords.Json.Reader
import CatalogRecords.Json.Writer
import CatalogRecords.Main
import CatalogRecords.Number.Binary
import CatalogRecords.Number.Integer
import CatalogRecords.Number.Decimal
import CatalogRecords.Pattern.CharSet
import CatalogRecords.Pattern.Expression
import CatalogRecords.Pattern.Matching
import CatalogRecords.Pattern.Reader
import CatalogRecords.Pattern.Search
import CatalogRecords.Pattern.Engine
import CatalogRecords.Query.Checking
import CatalogRecords.Query.Encoding
import CatalogRecords.Query.Evaluation
import CatalogRecords.Query.Expression
import CatalogRecords.Query.Metafield
import CatalogRecords.Query.Operator
import CatalogRecords.Query.Reader
import CatalogRecords.Query.Simplification
import CatalogRecords.Query.Token
import CatalogRecords.Registry
import CatalogRecords.Schema.Attributes
import CatalogRecords.Schema.Build
import CatalogRecords.Schema.Definition
import CatalogRecords.Schema.DocumentType
import CatalogRecords.Schema.Encoding
import CatalogRecords.Text.CharClass
import CatalogRecords.Text.LetterCase
import CatalogRecords.Text.Segments
import CatalogRecords.Value
import CatalogRecords.Yaml.Node
import CatalogRecords.Yaml.Reader
import CatalogRecords.Yaml.Writer
import CatalogRecords.Proofs.Query.Lexing
import CatalogRecords.Proofs.Query.Spelling
import CatalogRecords.Proofs.Query.Shape
import CatalogRecords.Proofs.Query.Writing
import CatalogRecords.Proofs.Query.Rereading
import CatalogRecords.Proofs.Except
import CatalogRecords.Proofs.Schema.Paths
import CatalogRecords.Proofs.Schema.Layout
import CatalogRecords.Proofs.Schema.Built
import CatalogRecords.Proofs.Schema.Elements
import CatalogRecords.Proofs.Document.Findings
import CatalogRecords.Proofs.Document.Verdict
import CatalogRecords.Proofs.Query.RoundTrip
import CatalogRecords.Proofs.Query.Simplification
import CatalogRecords.Proofs.Query.Exactness
import CatalogRecords.Proofs.Query.Merging
import CatalogRecords.Proofs.Query.CheckedEvaluation
import CatalogRecords.Proofs.Document.Flattening
import CatalogRecords.Proofs.Document.Order
import CatalogRecords.Proofs.Document.Lookup
import CatalogRecords.Proofs.Document.Mirroring
import CatalogRecords.Proofs.Schema.Resolution
import CatalogRecords.Proofs.Document.Presence
import CatalogRecords.Proofs.Dictionary.Changes
import CatalogRecords.Proofs.Dictionary.Lists
import CatalogRecords.Proofs.Dictionary.Routes
import CatalogRecords.Proofs.Dictionary.Refreshing
import CatalogRecords.Proofs.Query.Closure
import CatalogRecords.Proofs.Query.Leniency
import CatalogRecords.Proofs.Schema.CanonicalOrder
import CatalogRecords.Proofs.Query.Failures
import CatalogRecords.Proofs.Query.StorageOnly
import CatalogRecords.Proofs.Query.FieldQueries
import CatalogRecords.Proofs.Dictionary.Observations
import CatalogRecords.Proofs.Query.NormalForm
import CatalogRecords.Proofs.Registry
import CatalogRecords.Proofs.Dictionary.Isolation
import CatalogRecords.Proofs.Query.Dangling
import CatalogRecords.Proofs.Number.DecimalText
import CatalogRecords.Proofs.Number.Rounding
import CatalogRecords.Proofs.Number.Roundoff
import CatalogRecords.Proofs.Number.DecimalOrder
import CatalogRecords.Proofs.Schema.Violations
import CatalogRecords.Proofs.Schema.WellFormed
import CatalogRecords.Proofs.Schema.PartialPaths
import CatalogRecords.Proofs.Dictionary.SeedOrder
import CatalogRecords.Proofs.Dictionary.Merging
import CatalogRecords.Proofs.Dictionary.Completion
import CatalogRecords.Proofs.Text.Cuts
import CatalogRecords.Proofs.Pattern.Matching
import CatalogRecords.Proofs.Pattern.Reading
import CatalogRecords.Proofs.Pattern.Groups
import CatalogRecords.Proofs.Pattern.EngineLaws
import CatalogRecords.Proofs.Pattern.WholeValues
import CatalogRecords.Proofs.Schema.ValidationPatterns
import CatalogRecords.Proofs.Document.Levels
import CatalogRecords.Proofs.Data.Records
import CatalogRecords.Proofs.Query.WrittenForm
import CatalogRecords.Proofs.Schema.WrittenForm
import CatalogRecords.Proofs.Json.Texts
import CatalogRecords.Proofs.Json.Layouts
import CatalogRecords.Proofs.Json.Rereading
import CatalogRecords.Proofs.Calendar.Numbering
import CatalogRecords.Proofs.Calendar.Universal
import CatalogRecords.Proofs.Document.WrittenForm
import CatalogRecords.Proofs.Number.Separators
import CatalogRecords.Proofs.Query.Spans
import CatalogRecords.Proofs.Query.CriteriaLayout
import CatalogRecords.Proofs.Query.OpenGroups
import CatalogRecords.Proofs.Query.GroupStacks
