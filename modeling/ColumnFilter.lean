import ColumnFilter.Connection
import ColumnFilter.Dialect.Registry
import ColumnFilter.Json.Read
import ColumnFilter.Json.Print
import ColumnFilter.Regex.Pattern
import ColumnFilter.Segment
import ColumnFilter.Sql.Template
import ColumnFilter.Strategy.Like
import ColumnFilter.Text.Quoted
import ColumnFilter.Strategy.Marked
import ColumnFilter.Strategy.Range
import ColumnFilter.Strategy.Words
import ColumnFilter.Compiler
import ColumnFilter.Settings.Text
import ColumnFilter.Connection.Parameter
import ColumnFilter.Main
import ColumnFilter.Proofs.Compiler.Binding
import ColumnFilter.Proofs.Compiler.Injection
import ColumnFilter.Proofs.Compiler.Columns
import ColumnFilter.Proofs.Segment.Reading
import ColumnFilter.Proofs.Segment.Escaping
import ColumnFilter.Proofs.Regex.Enclosed.Escape
import ColumnFilter.Proofs.Regex.Required
import ColumnFilter.Proofs.Regex.Enclosed.Bracket
import ColumnFilter.Proofs.Regex.Enclosed.Item
import ColumnFilter.Proofs.Regex.Literal
import ColumnFilter.Proofs.Strategy.Numbers
import ColumnFilter.Proofs.Chain.Building
import ColumnFilter.Proofs.Chain.Answers
import ColumnFilter.Proofs.Chain.Probing
import ColumnFilter.Proofs.Compiler.Outcome
import ColumnFilter.Proofs.Compiler.Probing
import ColumnFilter.Proofs.Compiler.Validation
import ColumnFilter.Proofs.Compiler.Dialects
import ColumnFilter.Proofs.Dialect.Sharing
import ColumnFilter.Proofs.Compiler.Reordering
import ColumnFilter.Proofs.Sql.Negation
import ColumnFilter.Proofs.Dialect.Wildcards
import ColumnFilter.Proofs.Sql.Semantics
import ColumnFilter.Proofs.Strategy.WordSearch
import ColumnFilter.Proofs.Dialect.Numeral
import ColumnFilter.Proofs.Dialect.NumericCast
import ColumnFilter.Proofs.Compiler.Normal
import ColumnFilter.Proofs.Sql.Grouping
import ColumnFilter.Proofs.Sql.Placeholders
import ColumnFilter.Proofs.Sql.Precedence
import ColumnFilter.Proofs.Strategy.WholeTexts
import ColumnFilter.Proofs.Strategy.Relations
import ColumnFilter.Proofs.Text.Trimming
import ColumnFilter.Proofs.Segment.Scan
import ColumnFilter.Proofs.Settings.Layers
import ColumnFilter.Proofs.Dialect.PlainCast
import ColumnFilter.Proofs.Dialect.LengthGuard
import ColumnFilter.Proofs.Text.Cutting
import ColumnFilter.Proofs.Segment.Unescaped
import ColumnFilter.Proofs.Segment.Unmarked
import ColumnFilter.Proofs.Strategy.WordCutting
import ColumnFilter.Proofs.Chain.CatchAll
import ColumnFilter.Proofs.Sql.Merging
import ColumnFilter.Proofs.Segment.Markers
import ColumnFilter.Proofs.Value.LeadingPoint
import ColumnFilter.Proofs.Connection.Carrying
import ColumnFilter.Proofs.Connection.Returning
