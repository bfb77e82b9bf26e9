import ContentSearch.Text.Ranges
import ContentSearch.Text.Blank
import ContentSearch.Text.Alphanumeric
import ContentSearch.Text.Printable
import ContentSearch.Text.CaseTables
import ContentSearch.Text.Folding
import ContentSearch.Text.WordClass
import ContentSearch.Text.Casing
import ContentSearch.Text.Words
import ContentSearch.Text.Quoted
import ContentSearch.Text.Utf8
import ContentSearch.Number.Integer
import ContentSearch.Number.Hex
import ContentSearch.Number.Binary64
import ContentSearch.Number.Binary64.Shortest
import ContentSearch.Number.Binary64.Reading
import ContentSearch.Number.Decimal
import ContentSearch.Time.Instant
import ContentSearch.OrderedMap
import ContentSearch.PropertyType
import ContentSearch.Value
import ContentSearch.Value.Cast
import ContentSearch.Query.Operator
import ContentSearch.Query.Basic
import ContentSearch.Query.Statement
import ContentSearch.Query.Node
import ContentSearch.Schema.Basic
import ContentSearch.Schema.Draft
import ContentSearch.Index.Field
import ContentSearch.Index.Term
import ContentSearch.Pattern
import ContentSearch.Pattern.Regex
import ContentSearch.Pattern.Like
import ContentSearch.Pattern.Wildcard
import ContentSearch.Predicate
import ContentSearch.Content.Name
import ContentSearch.Plan.Comparison
import ContentSearch.SortedSet
import ContentSearch.Query.Problem
import ContentSearch.Query.Resolved
import ContentSearch.Plan.Basic
import ContentSearch.Plan.Error
import ContentSearch.Plan.Scope
import ContentSearch.Plan.Expansion
import ContentSearch.Content.Entry
import ContentSearch.Index.FieldIndex
import ContentSearch.Index.FullText
import ContentSearch.Index.Snapshot
import ContentSearch.Config
import ContentSearch.Plan.Memo
import ContentSearch.Search.Results
import ContentSearch.Search.Error
import ContentSearch.Search.Service
import ContentSearch.Json
import ContentSearch.Json.Token
import ContentSearch.Json.Reading
import ContentSearch.Json.Printing
import ContentSearch.Json.Access
import ContentSearch.Document.Value
import ContentSearch.Document.Query
import ContentSearch.Document.Predicate
import ContentSearch.Document.Content
import ContentSearch.Document.Schema
import ContentSearch.Document.Plan
import ContentSearch.Document.Config
import ContentSearch.Command
import ContentSearch.Number.Radix
import ContentSearch.Config.Settings
import ContentSearch.Yaml.Source
import ContentSearch.Yaml.Token
import ContentSearch.Yaml.Property
import ContentSearch.Yaml.Plain
import ContentSearch.Yaml.Quoted
import ContentSearch.Yaml.Written
import ContentSearch.Yaml.Layout
import ContentSearch.Yaml.Node
import ContentSearch.Yaml.Document
import ContentSearch.Yaml.Reading
import ContentSearch.Toml.Table
import ContentSearch.Toml.Scalar
import ContentSearch.Toml.Reading
import ContentSearch.Files
import ContentSearch.Config.Loading
import ContentSearch.CommandLine.Usage
import ContentSearch.CommandLine
import ContentSearch.Main
import ContentSearch.Document.Node
import ContentSearch.Proofs.Outcome
import ContentSearch.Proofs.Index.Postings
import ContentSearch.Proofs.Index.FieldIndex
import ContentSearch.Proofs.Index.Snapshot
import ContentSearch.Proofs.Index.History
import ContentSearch.Proofs.Index.Scan
import ContentSearch.Proofs.Index.Content
import ContentSearch.Proofs.Number.Hex
import ContentSearch.Proofs.Index.Field
import ContentSearch.Proofs.Index.Term
import ContentSearch.Proofs.Schema.Draft
import ContentSearch.Proofs.Query.Resolved
import ContentSearch.Proofs.Query.Validity
import ContentSearch.Proofs.Query.Translation
import ContentSearch.Proofs.Plan.Expansion
import ContentSearch.Proofs.Plan.Relation
import ContentSearch.Proofs.Plan.Meaning
import ContentSearch.Proofs.Plan.Translation
import ContentSearch.Proofs.Plan.View
import ContentSearch.Proofs.Plan.Memo
import ContentSearch.Proofs.Plan.Key
import ContentSearch.Proofs.Search.Order
import ContentSearch.Proofs.Search.Results
import ContentSearch.Proofs.Search.Steps
import ContentSearch.Proofs.Search.Isolation
import ContentSearch.Proofs.Search.Update
import ContentSearch.Proofs.Query.Lexeme
import ContentSearch.Proofs.Query.Reading
import ContentSearch.Proofs.Plan.FullText
import ContentSearch.Proofs.Plan.ViewColumn
import ContentSearch.Proofs.Query.Unambiguous
import ContentSearch.Proofs.Query.WellFormed
import ContentSearch.Proofs.Pattern.Syntax
import ContentSearch.Proofs.Plan.Answers
import ContentSearch.Proofs.Index.FieldKey
import ContentSearch.Proofs.Index.Path
import ContentSearch.Proofs.Schema.Definition
import ContentSearch.Proofs.Plan.Lookup
import ContentSearch.Proofs.Plan.Operators
import ContentSearch.Proofs.Number.Digits
import ContentSearch.Proofs.Number.Decimal
import ContentSearch.Proofs.Json.Token
import ContentSearch.Proofs.Json.Reading
import ContentSearch.Proofs.Json.Access
import ContentSearch.Proofs.Document.Query
import ContentSearch.Proofs.Text.Blank
import ContentSearch.Proofs.Number.Binary64.Rounding
import ContentSearch.Proofs.Number.Binary64.Shortest
import ContentSearch.Proofs.Number.Binary64.Text
import ContentSearch.Proofs.Time.Calendar
import ContentSearch.Proofs.Time.Text
import ContentSearch.Proofs.Value.Display
import ContentSearch.Proofs.Pattern.Meaning
import ContentSearch.Proofs.Pattern.Search
import ContentSearch.Proofs.Pattern.Like
import ContentSearch.Proofs.Plan.Like
import ContentSearch.Proofs.Text.Casing
import ContentSearch.Proofs.Plan.Table
import ContentSearch.Proofs.Plan.CaseMapping
import ContentSearch.Proofs.Plan.Existence
import ContentSearch.Proofs.Index.Full
import ContentSearch.Proofs.Text.Folding
import ContentSearch.Proofs.Pattern.Folding
import ContentSearch.Proofs.Plan.CaseOrder
import ContentSearch.Proofs.Plan.Unsupported
import ContentSearch.Proofs.Plan.IgnoringCase
import ContentSearch.Proofs.Plan.Verbatim
import ContentSearch.Proofs.Pattern.Wildcard
import ContentSearch.Proofs.Plan.Name
import ContentSearch.Proofs.Plan.Hierarchy
import ContentSearch.Proofs.Number.Binary64.Value
import ContentSearch.Proofs.Number.Binary64.Nearest
import ContentSearch.Proofs.Number.Decimal.Value
import ContentSearch.Proofs.Number.Decimal.Short
import ContentSearch.Proofs.Text.Utf8
import ContentSearch.Proofs.Value.Long
import ContentSearch.Proofs.Value.Term
import ContentSearch.Proofs.Plan.Equality
import ContentSearch.Proofs.Number.Binary64.Order
import ContentSearch.Proofs.Number.Spelling
import ContentSearch.Proofs.Index.Spelling
import ContentSearch.Proofs.Value.Order
import ContentSearch.Proofs.Index.FullText
import ContentSearch.Proofs.Plan.Variables
import ContentSearch.Proofs.Query.Walk
import ContentSearch.Proofs.Index.Score
import ContentSearch.Proofs.Plan.ViewDepth
import ContentSearch.Proofs.Config.Loading
