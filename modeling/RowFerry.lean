import RowFerry.Adapter
import RowFerry.Adapter.Bulk
import RowFerry.Adapter.Migration
import RowFerry.Calendar.Date
import RowFerry.Calendar.Reading
import RowFerry.Calendar.Time
import RowFerry.Command
import RowFerry.Command.Report
import RowFerry.Config
import RowFerry.Config.Reading
import RowFerry.Criteria
import RowFerry.Engine.Cursor
import RowFerry.Engine.LargeObject
import RowFerry.Engine.Pool
import RowFerry.Failure
import RowFerry.Json
import RowFerry.Main
import RowFerry.MySql.Column
import RowFerry.MySql.Query
import RowFerry.MySql.Source
import RowFerry.Number.Binary64
import RowFerry.Number.Decimal
import RowFerry.Number.Shortest
import RowFerry.Odbc.Column
import RowFerry.Odbc.ConnectionString
import RowFerry.Odbc.Driver
import RowFerry.Odbc.Keeper
import RowFerry.Odbc.Pool
import RowFerry.Proofs.AnnouncedRows
import RowFerry.Proofs.Attempts
import RowFerry.Proofs.Attribution
import RowFerry.Proofs.Calendar
import RowFerry.Proofs.Commits
import RowFerry.Proofs.Connections
import RowFerry.Proofs.Decimal
import RowFerry.Proofs.Durability
import RowFerry.Proofs.FixedTable
import RowFerry.Proofs.IdentityInsert
import RowFerry.Proofs.LargeObject
import RowFerry.Proofs.LoadProtocol
import RowFerry.Proofs.MatchSet
import RowFerry.Proofs.MigrationAccounting
import RowFerry.Proofs.Numbers
import RowFerry.Proofs.MySql.Integers
import RowFerry.Proofs.MySql.PageOrder
import RowFerry.Proofs.MySql.PageQuery
import RowFerry.Proofs.MySql.Ticks
import RowFerry.Proofs.MySql.WholePages
import RowFerry.Proofs.Odbc.BoundText
import RowFerry.Proofs.Odbc.Credentials
import RowFerry.Proofs.Odbc.FaithfulKeeper
import RowFerry.Proofs.Odbc.FetchedCells
import RowFerry.Proofs.Odbc.PoolContract
import RowFerry.Proofs.Odbc.PoolRequests
import RowFerry.Proofs.Odbc.Shelves
import RowFerry.Proofs.PageLimit
import RowFerry.Proofs.PoolClient
import RowFerry.Proofs.Protocol
import RowFerry.Proofs.Protocol.Bulk
import RowFerry.Proofs.Protocol.Migration
import RowFerry.Proofs.Protocol.Session
import RowFerry.Proofs.Rejection
import RowFerry.Proofs.ResultSet
import RowFerry.Proofs.Row
import RowFerry.Proofs.Sequences
import RowFerry.Proofs.Sql.Acceptance
import RowFerry.Proofs.Sql.Bare
import RowFerry.Proofs.Sql.BoundOperands
import RowFerry.Proofs.Sql.Case
import RowFerry.Proofs.Sql.Columns
import RowFerry.Proofs.Sql.Containment
import RowFerry.Proofs.Sql.Folding
import RowFerry.Proofs.Sql.Fragments
import RowFerry.Proofs.Sql.Layout
import RowFerry.Proofs.Sql.Legality
import RowFerry.Proofs.Sql.Meaning
import RowFerry.Proofs.Sql.Names
import RowFerry.Proofs.Sql.Placeholders
import RowFerry.Proofs.Sql.Qualifiers
import RowFerry.Proofs.Sql.Reading
import RowFerry.Proofs.Sql.Requests
import RowFerry.Proofs.Sql.Scope
import RowFerry.Proofs.Sql.Unambiguous
import RowFerry.Proofs.Sql.UpperCase
import RowFerry.Proofs.StatementText
import RowFerry.Proofs.StoppedMigration
import RowFerry.Proofs.Text.Digits
import RowFerry.Proofs.Text.Utf8
import RowFerry.Proofs.Totals
import RowFerry.Proofs.Trace
import RowFerry.Proofs.UncommittedWork
import RowFerry.Proofs.Unicode.Upper
import RowFerry.Proofs.Unicode.Words
import RowFerry.Proofs.UniqueKeys
import RowFerry.Rehearsal.Manager
import RowFerry.Rehearsal.Pool
import RowFerry.Rehearsal.Rule
import RowFerry.Rehearsal.Server
import RowFerry.Row
import RowFerry.Session
import RowFerry.Sql.Clause
import RowFerry.Sql.Compiler
import RowFerry.Sql.Ident
import RowFerry.Sql.Statement
import RowFerry.Text.Digits
import RowFerry.Text.Lists
import RowFerry.Text.Quoted
import RowFerry.Text.Utf8
import RowFerry.Unicode.Alphabetic
import RowFerry.Unicode.Class
import RowFerry.Unicode.Numeric
import RowFerry.Unicode.Unprintable
import RowFerry.Unicode.Upper
import RowFerry.Unicode.WhiteSpace
import RowFerry.Uuid
import RowFerry.Value
import RowFerry.Yaml.Datum
import RowFerry.Yaml.Document
import RowFerry.Yaml.Event
import RowFerry.Yaml.Event.Grammar
import RowFerry.Yaml.Fault
import RowFerry.Yaml.Node
import RowFerry.Yaml.Position
import RowFerry.Yaml.Reader
import RowFerry.Yaml.Scalar.Block
import RowFerry.Yaml.Scalar.Gap
import RowFerry.Yaml.Scalar.Plain
import RowFerry.Yaml.Scalar.Quoted
import RowFerry.Yaml.Tag
import RowFerry.Yaml.Token
import RowFerry.Yaml.Token.Directive
import RowFerry.Yaml.Token.Lexer
