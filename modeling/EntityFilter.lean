import EntityFilter.Calendar.Date
import EntityFilter.Calendar.Instant
import EntityFilter.Calendar.Reading
import EntityFilter.Calendar.TimeOfDay
import EntityFilter.Command.Arguments
import EntityFilter.Command.Help
import EntityFilter.Command.Run
import EntityFilter.Filter.Comparison
import EntityFilter.Filter.Expr
import EntityFilter.Filter.Lexeme
import EntityFilter.Filter.Lexer
import EntityFilter.Filter.Literal
import EntityFilter.Filter.Outline
import EntityFilter.Filter.Parser
import EntityFilter.Filter.Position
import EntityFilter.Filter.Rule
import EntityFilter.Filter.SyntaxError
import EntityFilter.Filter.Token
import EntityFilter.Json.Draft
import EntityFilter.Json.Value
import EntityFilter.Launch.Directive
import EntityFilter.Launch.Exporter
import EntityFilter.Launch.Log
import EntityFilter.Launch.Run
import EntityFilter.Main
import EntityFilter.Number.Binary
import EntityFilter.Number.FixedPoint
import EntityFilter.Number.Reading
import EntityFilter.Number.Shortest
import EntityFilter.Proofs.Calendar.Days
import EntityFilter.Proofs.Calendar.Fields
import EntityFilter.Proofs.Calendar.Readers
import EntityFilter.Proofs.Filter.Alike
import EntityFilter.Proofs.Filter.Derivation
import EntityFilter.Proofs.Filter.Image
import EntityFilter.Proofs.Filter.Layout
import EntityFilter.Proofs.Filter.Lexemes
import EntityFilter.Proofs.Filter.Lookahead
import EntityFilter.Proofs.Filter.Machine
import EntityFilter.Proofs.Filter.Numerals
import EntityFilter.Proofs.Filter.Parsing
import EntityFilter.Proofs.Filter.Positions
import EntityFilter.Proofs.Filter.Proper
import EntityFilter.Proofs.Filter.Quoting
import EntityFilter.Proofs.Filter.Shape
import EntityFilter.Proofs.Filter.Spelling
import EntityFilter.Proofs.Filter.Stability
import EntityFilter.Proofs.Filter.Tokens
import EntityFilter.Proofs.Filter.Viability
import EntityFilter.Proofs.Filter.Writing
import EntityFilter.Proofs.Query.Agreement
import EntityFilter.Proofs.Query.Aliases
import EntityFilter.Proofs.Query.Ancestors
import EntityFilter.Proofs.Query.Clauses
import EntityFilter.Proofs.Query.Conditions
import EntityFilter.Proofs.Query.Depth
import EntityFilter.Proofs.Query.Enclosure
import EntityFilter.Proofs.Query.Folding
import EntityFilter.Proofs.Query.Formula
import EntityFilter.Proofs.Query.Literals
import EntityFilter.Proofs.Query.Meaning
import EntityFilter.Proofs.Query.Numbering
import EntityFilter.Proofs.Query.Operands
import EntityFilter.Proofs.Query.Outline
import EntityFilter.Proofs.Query.Projection
import EntityFilter.Proofs.Query.Quotes
import EntityFilter.Proofs.Query.Rendering
import EntityFilter.Proofs.Query.Scan
import EntityFilter.Proofs.Query.Scopes
import EntityFilter.Proofs.Query.Select
import EntityFilter.Proofs.Query.Series
import EntityFilter.Proofs.Query.Shifting
import EntityFilter.Proofs.Query.Sources
import EntityFilter.Proofs.Query.Statements
import EntityFilter.Proofs.Query.Temporal
import EntityFilter.Proofs.Query.Verbatim
import EntityFilter.Proofs.Service.Access
import EntityFilter.Proofs.Service.Accounts
import EntityFilter.Proofs.Service.Bodies
import EntityFilter.Proofs.Service.Columns
import EntityFilter.Proofs.Service.Courses
import EntityFilter.Proofs.Service.Disclosure
import EntityFilter.Proofs.Service.Grouping
import EntityFilter.Proofs.Service.Numbers
import EntityFilter.Proofs.Service.Reconciliation
import EntityFilter.Proofs.Service.Sessions
import EntityFilter.Proofs.Service.Timestamps
import EntityFilter.Proofs.Service.Totals
import EntityFilter.Proofs.Service.Validity
import EntityFilter.Proofs.Text.Characters
import EntityFilter.Query.Columns
import EntityFilter.Query.Compile
import EntityFilter.Query.Error
import EntityFilter.Query.Kind
import EntityFilter.Query.Predicate
import EntityFilter.Query.Sql
import EntityFilter.Query.Statement
import EntityFilter.Query.Values
import EntityFilter.Service.Body
import EntityFilter.Service.Entities
import EntityFilter.Service.Failure
import EntityFilter.Service.Http
import EntityFilter.Service.Observation
import EntityFilter.Service.Operations
import EntityFilter.Service.Request
import EntityFilter.Service.Session
import EntityFilter.Service.Table
import EntityFilter.Settings.Address
import EntityFilter.Settings.Basic
import EntityFilter.Settings.Check
import EntityFilter.Settings.Decode
import EntityFilter.Settings.EnvFile
import EntityFilter.Settings.Key
import EntityFilter.Settings.Layers
import EntityFilter.Text.Alphanumeric
import EntityFilter.Text.Blank
import EntityFilter.Text.Header
import EntityFilter.Text.MediaType
import EntityFilter.Text.Numeral
import EntityFilter.Text.Printable
import EntityFilter.Text.Ranges
import EntityFilter.Text.Uri
