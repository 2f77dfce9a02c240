import ObservationQuery.Calendar
import ObservationQuery.CommandLine.Arguments
import ObservationQuery.CommandLine.Run
import ObservationQuery.Compile.Command
import ObservationQuery.Compile.Contribution
import ObservationQuery.Compile.Error
import ObservationQuery.Compile.Feature
import ObservationQuery.Compile.Filter
import ObservationQuery.Compile.Link
import ObservationQuery.Compile.Observation
import ObservationQuery.Compile.Stream
import ObservationQuery.Compile.Time
import ObservationQuery.Condition.Description
import ObservationQuery.Condition.Identity
import ObservationQuery.Condition.Place
import ObservationQuery.Double
import ObservationQuery.Entity
import ObservationQuery.Filter.Basic
import ObservationQuery.Filter.Builder
import ObservationQuery.Filter.Printer
import ObservationQuery.Filter.Reader
import ObservationQuery.Instant.Basic
import ObservationQuery.Instant.Printer
import ObservationQuery.Instant.Reader
import ObservationQuery.Json.Basic
import ObservationQuery.Json.Printer
import ObservationQuery.Json.Reader
import ObservationQuery.Json.Record
import ObservationQuery.Main
import ObservationQuery.Proofs.Admissible
import ObservationQuery.Proofs.Alike
import ObservationQuery.Proofs.Calendar
import ObservationQuery.Proofs.Collection
import ObservationQuery.Proofs.Compile.Alike
import ObservationQuery.Proofs.Compile.Contribution
import ObservationQuery.Proofs.Compile.Filter
import ObservationQuery.Proofs.Compile.Latest
import ObservationQuery.Proofs.Compile.Link
import ObservationQuery.Proofs.Compile.Order
import ObservationQuery.Proofs.Compile.Parts
import ObservationQuery.Proofs.Compile.Scope
import ObservationQuery.Proofs.Compile.Series
import ObservationQuery.Proofs.Compile.Share
import ObservationQuery.Proofs.Compile.Time
import ObservationQuery.Proofs.Condition
import ObservationQuery.Proofs.Conjunction
import ObservationQuery.Proofs.Count
import ObservationQuery.Proofs.Criteria
import ObservationQuery.Proofs.Deployment
import ObservationQuery.Proofs.Filter
import ObservationQuery.Proofs.FlatObservation
import ObservationQuery.Proofs.Injection
import ObservationQuery.Proofs.Instant
import ObservationQuery.Proofs.Joins
import ObservationQuery.Proofs.Json
import ObservationQuery.Proofs.Keyword
import ObservationQuery.Proofs.Latest
import ObservationQuery.Proofs.Limit
import ObservationQuery.Proofs.MatchingStreams
import ObservationQuery.Proofs.Members
import ObservationQuery.Proofs.Merge
import ObservationQuery.Proofs.Occurrence
import ObservationQuery.Proofs.OrderedRange
import ObservationQuery.Proofs.Period
import ObservationQuery.Proofs.PropertyPath
import ObservationQuery.Proofs.Record
import ObservationQuery.Proofs.Relation
import ObservationQuery.Proofs.Respelling
import ObservationQuery.Proofs.RoundTrip
import ObservationQuery.Proofs.Scope
import ObservationQuery.Proofs.SemiJoin
import ObservationQuery.Proofs.Settings
import ObservationQuery.Proofs.SingleTable
import ObservationQuery.Proofs.Sql.Calls
import ObservationQuery.Proofs.Sql.Clauses
import ObservationQuery.Proofs.Sql.Conjunction
import ObservationQuery.Proofs.Sql.Lexeme
import ObservationQuery.Proofs.Sql.Merge
import ObservationQuery.Proofs.Sql.Parts
import ObservationQuery.Proofs.Sql.Range
import ObservationQuery.Proofs.Sql.Reading
import ObservationQuery.Proofs.Sql.Reference
import ObservationQuery.Proofs.Sql.Rows
import ObservationQuery.Proofs.Sql.Scope
import ObservationQuery.Proofs.Sql.Spelling
import ObservationQuery.Proofs.Sql.Timestamp
import ObservationQuery.Proofs.Sql.Truth
import ObservationQuery.Proofs.Sql.Values
import ObservationQuery.Proofs.Sql.Wording
import ObservationQuery.Proofs.Statistics
import ObservationQuery.Proofs.UniqueId
import ObservationQuery.Settings.Basic
import ObservationQuery.Settings.Files
import ObservationQuery.SortedSet
import ObservationQuery.Sql.Bound
import ObservationQuery.Sql.Clause
import ObservationQuery.Sql.Expr
import ObservationQuery.Sql.Literal
import ObservationQuery.Sql.Predicate
import ObservationQuery.Sql.Query
import ObservationQuery.Sql.Token
import ObservationQuery.Tables.Basic
import ObservationQuery.Tables.Reader
import ObservationQuery.Text.Blank
import ObservationQuery.Text.Decimal
import ObservationQuery.Text.Invisible
import ObservationQuery.Text.Padding
import ObservationQuery.Text.Quoted
import ObservationQuery.Toml.Basic
import ObservationQuery.Toml.Numeral
import ObservationQuery.Toml.Reader
import ObservationQuery.Toml.Time
