import ContentQuery.CommandLine.Folder
import ContentQuery.CommandLine.Invocation
import ContentQuery.CommandLine.Program
import ContentQuery.CommandLine.Report
import ContentQuery.CommandLine.Switch
import ContentQuery.CommandLine.Table
import ContentQuery.Criterion.Basic
import ContentQuery.Criterion.Predicate
import ContentQuery.Criterion.Reduction
import ContentQuery.Criterion.Restriction
import ContentQuery.Error
import ContentQuery.Execution.Executor
import ContentQuery.Execution.Items
import ContentQuery.Execution.Paged
import ContentQuery.Execution.Session
import ContentQuery.Json.Criterion
import ContentQuery.Json.Decode
import ContentQuery.Json.Listing
import ContentQuery.Json.Number
import ContentQuery.Json.Query
import ContentQuery.Json.Reader
import ContentQuery.Json.Token
import ContentQuery.Json.Tree
import ContentQuery.Json.Value
import ContentQuery.Json.Writer
import ContentQuery.Language
import ContentQuery.Main
import ContentQuery.Number.Double
import ContentQuery.Number.Layout
import ContentQuery.Number.Reader
import ContentQuery.Number.Shortest
import ContentQuery.Order
import ContentQuery.Path
import ContentQuery.Pattern
import ContentQuery.Proofs.Criterion.Atoms
import ContentQuery.Proofs.Criterion.Built
import ContentQuery.Proofs.Criterion.Canonical
import ContentQuery.Proofs.Criterion.Meaning
import ContentQuery.Proofs.Criterion.Operands
import ContentQuery.Proofs.Criterion.Parts
import ContentQuery.Proofs.Criterion.Paths
import ContentQuery.Proofs.Criterion.Reduction
import ContentQuery.Proofs.Criterion.Trees
import ContentQuery.Proofs.Criterion.WellFormed
import ContentQuery.Proofs.Error
import ContentQuery.Proofs.Execution.History
import ContentQuery.Proofs.Execution.Reading
import ContentQuery.Proofs.Execution.Rows
import ContentQuery.Proofs.Execution.Session
import ContentQuery.Proofs.Execution.Totals
import ContentQuery.Proofs.Json.Criterion
import ContentQuery.Proofs.Json.Decode
import ContentQuery.Proofs.Json.Depth
import ContentQuery.Proofs.Json.Number
import ContentQuery.Proofs.Json.Question
import ContentQuery.Proofs.Json.ReadBack
import ContentQuery.Proofs.Json.RoundTrip
import ContentQuery.Proofs.Json.Value
import ContentQuery.Proofs.Json.Written
import ContentQuery.Proofs.Number.Digits
import ContentQuery.Proofs.Number.Layout
import ContentQuery.Proofs.Number.Order
import ContentQuery.Proofs.Number.Rounding
import ContentQuery.Proofs.Number.Shortest
import ContentQuery.Proofs.Path
import ContentQuery.Proofs.Pattern.Agreement
import ContentQuery.Proofs.Pattern.Like
import ContentQuery.Proofs.Pattern.Wildcard
import ContentQuery.Proofs.Query.BasePath
import ContentQuery.Proofs.Query.ClauseOrder
import ContentQuery.Proofs.Query.Compiler
import ContentQuery.Proofs.Query.Page
import ContentQuery.Proofs.Query.PathPasses
import ContentQuery.Proofs.Repository.Branch
import ContentQuery.Proofs.Repository.Children
import ContentQuery.Proofs.Repository.Containment
import ContentQuery.Proofs.Repository.DocumentOrder
import ContentQuery.Proofs.Repository.Engine
import ContentQuery.Proofs.Repository.Growth
import ContentQuery.Proofs.Repository.Hits
import ContentQuery.Proofs.Repository.Insertion
import ContentQuery.Proofs.Repository.Landing
import ContentQuery.Proofs.Repository.Listing
import ContentQuery.Proofs.Repository.Matcher
import ContentQuery.Proofs.Repository.Matching
import ContentQuery.Proofs.Repository.Mirror
import ContentQuery.Proofs.Repository.NodeOrder
import ContentQuery.Proofs.Repository.NodeTable
import ContentQuery.Proofs.Repository.Platform
import ContentQuery.Proofs.Repository.Reachable
import ContentQuery.Proofs.Repository.Search
import ContentQuery.Proofs.Repository.Selection
import ContentQuery.Proofs.Repository.SortedSearch
import ContentQuery.Proofs.Repository.Tree
import ContentQuery.Proofs.Repository.Update
import ContentQuery.Proofs.Repository.Ways
import ContentQuery.Proofs.Repository.Writing
import ContentQuery.Proofs.Statement.Condition
import ContentQuery.Proofs.Statement.DecodedName
import ContentQuery.Proofs.Statement.EncodedName
import ContentQuery.Proofs.Statement.Fault
import ContentQuery.Proofs.Statement.Grammar
import ContentQuery.Proofs.Statement.LegalName
import ContentQuery.Proofs.Statement.Literal
import ContentQuery.Proofs.Statement.Meaning
import ContentQuery.Proofs.Statement.Order
import ContentQuery.Proofs.Statement.Quoting
import ContentQuery.Proofs.Statement.Request
import ContentQuery.Proofs.Statement.Scope
import ContentQuery.Proofs.Statement.Sql2
import ContentQuery.Proofs.Statement.XPath
import ContentQuery.Proofs.Text.Words
import ContentQuery.Proofs.Time.Calendar
import ContentQuery.Proofs.Time.Instant
import ContentQuery.Property
import ContentQuery.Query.Compiler
import ContentQuery.Query.Config
import ContentQuery.Query.Criteria
import ContentQuery.Query.Descriptor
import ContentQuery.Repository.Forest
import ContentQuery.Repository.Matcher
import ContentQuery.Repository.Node
import ContentQuery.Repository.NodeTable
import ContentQuery.Repository.Platform
import ContentQuery.Repository.Search
import ContentQuery.Repository.Store
import ContentQuery.Repository.Update
import ContentQuery.Repository.Writing
import ContentQuery.Statement.EncodedName
import ContentQuery.Statement.Request
import ContentQuery.Statement.Sql2
import ContentQuery.Statement.XPath
import ContentQuery.Text.Basic
import ContentQuery.Text.Case
import ContentQuery.Text.Emoji
import ContentQuery.Text.Letter
import ContentQuery.Text.Ligature
import ContentQuery.Text.Numeral
import ContentQuery.Text.Visible
import ContentQuery.Text.Width
import ContentQuery.Time.Calendar
import ContentQuery.Time.Instant
import ContentQuery.Time.Reader
import ContentQuery.Value
