import ClickHouse.Calendar
import ClickHouse.Catalog
import ClickHouse.Catalog.Memory
import ClickHouse.Catalog.ViewTarget
import ClickHouse.DataType
import ClickHouse.DataType.Checked
import ClickHouse.DataType.Printer
import ClickHouse.DataType.Reader
import ClickHouse.DatabaseError
import ClickHouse.Decimal.Layout
import ClickHouse.Decimal.Reader
import ClickHouse.Decimal.Shortest
import ClickHouse.DefinitionError
import ClickHouse.Dialect
import ClickHouse.Dialogue
import ClickHouse.Engine
import ClickHouse.Engine.Definition
import ClickHouse.Engine.Sql
import ClickHouse.Exchange
import ClickHouse.Exchange.Status
import ClickHouse.Failure
import ClickHouse.Identifier
import ClickHouse.Json
import ClickHouse.Json.Printer
import ClickHouse.Json.Reader
import ClickHouse.Lexeme
import ClickHouse.Lexeme.Group
import ClickHouse.Lexeme.Scanner
import ClickHouse.Model
import ClickHouse.Placeholder
import ClickHouse.Proofs.Calendar.RoundTrip
import ClickHouse.Proofs.Catalog.Columns
import ClickHouse.Proofs.Catalog.InnerStorage
import ClickHouse.Proofs.Catalog.Memory
import ClickHouse.Proofs.Catalog.Recreation
import ClickHouse.Proofs.Catalog.Resilience
import ClickHouse.Proofs.Catalog.StatementHead
import ClickHouse.Proofs.Catalog.Statements
import ClickHouse.Proofs.Catalog.TargetClause
import ClickHouse.Proofs.Catalog.ViewTarget
import ClickHouse.Proofs.DataType.Canonical
import ClickHouse.Proofs.DataType.Grammar
import ClickHouse.Proofs.DataType.Guarded
import ClickHouse.Proofs.DataType.Nesting
import ClickHouse.Proofs.DataType.RoundTrip
import ClickHouse.Proofs.DataType.Soundness
import ClickHouse.Proofs.Engine.ClauseBody
import ClickHouse.Proofs.Engine.Clauses
import ClickHouse.Proofs.Engine.KeyClauses
import ClickHouse.Proofs.Engine.Parameters
import ClickHouse.Proofs.Engine.Retention
import ClickHouse.Proofs.Engine.RetentionClause
import ClickHouse.Proofs.Engine.RetentionRule
import ClickHouse.Proofs.Engine.RoundTrip
import ClickHouse.Proofs.Engine.Scanned
import ClickHouse.Proofs.Engine.Settings
import ClickHouse.Proofs.Engine.Texts
import ClickHouse.Proofs.Engine.UnknownFormat
import ClickHouse.Proofs.Exchange.Rows
import ClickHouse.Proofs.Identifier.Distinct
import ClickHouse.Proofs.Identifier.OneLexeme
import ClickHouse.Proofs.Identifier.Reference
import ClickHouse.Proofs.Identifier.Sealed
import ClickHouse.Proofs.Json.RoundTrip
import ClickHouse.Proofs.Lexeme.Contained
import ClickHouse.Proofs.Lexeme.Item
import ClickHouse.Proofs.Lexeme.Legible
import ClickHouse.Proofs.Lexeme.LongestMatch
import ClickHouse.Proofs.Lexeme.Marker
import ClickHouse.Proofs.Lexeme.Nesting
import ClickHouse.Proofs.Lexeme.Pattern
import ClickHouse.Proofs.Lexeme.Seam
import ClickHouse.Proofs.Lexeme.Span
import ClickHouse.Proofs.Lexeme.Splitting
import ClickHouse.Proofs.Lexeme.Written
import ClickHouse.Proofs.Outcome
import ClickHouse.Proofs.Placeholder.Discipline
import ClickHouse.Proofs.Placeholder.Exact
import ClickHouse.Proofs.Placeholder.Filling
import ClickHouse.Proofs.Placeholder.Passing
import ClickHouse.Proofs.Query.Checks
import ClickHouse.Proofs.Query.Conjunction
import ClickHouse.Proofs.Query.EmptySet
import ClickHouse.Proofs.Query.Ingredients
import ClickHouse.Proofs.Query.Lead
import ClickHouse.Proofs.Query.Literals
import ClickHouse.Proofs.Query.Makeup
import ClickHouse.Proofs.Query.Offences
import ClickHouse.Proofs.Query.Operators
import ClickHouse.Proofs.Query.Outline
import ClickHouse.Proofs.Query.Precedence
import ClickHouse.Proofs.Query.Predicates
import ClickHouse.Proofs.Query.Printing
import ClickHouse.Proofs.Query.Regrouping
import ClickHouse.Proofs.Query.Signs
import ClickHouse.Proofs.Query.Spelling
import ClickHouse.Proofs.Query.Spellings
import ClickHouse.Proofs.Settings.Precedence
import ClickHouse.Proofs.Statement.Bindings
import ClickHouse.Proofs.Statement.Executable
import ClickHouse.Proofs.Statement.Filters
import ClickHouse.Proofs.Statement.InsertHead
import ClickHouse.Proofs.Statement.InsertedRows
import ClickHouse.Proofs.Statement.Percent
import ClickHouse.Proofs.Statement.Printing
import ClickHouse.Proofs.Statement.Stripped
import ClickHouse.Proofs.Statement.Writable
import ClickHouse.Proofs.Table.Boundaries
import ClickHouse.Proofs.Table.Contents
import ClickHouse.Proofs.Table.Passing
import ClickHouse.Proofs.Template.Inlined
import ClickHouse.Proofs.Template.Percent
import ClickHouse.Proofs.Text.Casing
import ClickHouse.Proofs.Text.Trim
import ClickHouse.Proofs.Text.Words
import ClickHouse.Proofs.Toml.Distinct
import ClickHouse.Proofs.Toml.Document
import ClickHouse.Proofs.Value.Cell
import ClickHouse.Proofs.Value.Inert
import ClickHouse.Proofs.Value.Literal
import ClickHouse.Proofs.Value.NamedTuple
import ClickHouse.Proofs.Value.Numerals
import ClickHouse.Proofs.Version.Order
import ClickHouse.Proofs.Version.Width
import ClickHouse.Query
import ClickHouse.Query.Sql
import ClickHouse.Registry
import ClickHouse.Row
import ClickHouse.Settings
import ClickHouse.Settings.Layer
import ClickHouse.Settings.Reader
import ClickHouse.Statement.Head
import ClickHouse.Statement.Sql
import ClickHouse.StatementError
import ClickHouse.SyntaxError
import ClickHouse.Table
import ClickHouse.Table.Ddl
import ClickHouse.Template
import ClickHouse.Text.Blank
import ClickHouse.Text.CaseTable
import ClickHouse.Text.Casing
import ClickHouse.Text.Hex
import ClickHouse.Text.Join
import ClickHouse.Text.Quoted
import ClickHouse.Text.Words
import ClickHouse.Toml
import ClickHouse.Toml.Number
import ClickHouse.Toml.Reader
import ClickHouse.Uuid
import ClickHouse.Value
import ClickHouse.Value.Cell
import ClickHouse.Value.Literal
import ClickHouse.Version
