import SqliteReader.Bytes
import SqliteReader.Catalog
import SqliteReader.Command
import SqliteReader.Cursor
import SqliteReader.Database
import SqliteReader.Decimal.Shortest
import SqliteReader.Error
import SqliteReader.FileHeader
import SqliteReader.Image
import SqliteReader.Invocation
import SqliteReader.Main
import SqliteReader.Page
import SqliteReader.Record
import SqliteReader.Record.Header
import SqliteReader.Request
import SqliteReader.Request.Plan
import SqliteReader.Results
import SqliteReader.Scan
import SqliteReader.Schema
import SqliteReader.Schema.Definition
import SqliteReader.Select
import SqliteReader.Settings
import SqliteReader.Shell
import SqliteReader.Sql.Error
import SqliteReader.Sql.Expr
import SqliteReader.Sql.Keyword
import SqliteReader.Sql.Name
import SqliteReader.Sql.Parser
import SqliteReader.Sql.Parser.CreateTable
import SqliteReader.Sql.Parser.DataType
import SqliteReader.Sql.Parser.Expr
import SqliteReader.Sql.Parser.Query
import SqliteReader.Sql.Parser.Statement
import SqliteReader.Sql.Query
import SqliteReader.Sql.Statement
import SqliteReader.Sql.Token
import SqliteReader.Text
import SqliteReader.Text.Quoted
import SqliteReader.Text.Utf8
import SqliteReader.Value
import SqliteReader.Varint
import SqliteReader.Proofs.Pager
import SqliteReader.Proofs.Partial
import SqliteReader.Proofs.Walk
import SqliteReader.Proofs.FileHeader
import SqliteReader.Proofs.History
import SqliteReader.Proofs.Catalog
import SqliteReader.Proofs.Image
import SqliteReader.Proofs.PagesRead
import SqliteReader.Proofs.Trees
import SqliteReader.Proofs.Locality
import SqliteReader.Proofs.WalkLength
import SqliteReader.Proofs.RowOrder
import SqliteReader.Proofs.Trapping
import SqliteReader.Proofs.TrappingPages
import SqliteReader.Proofs.TrappingRecords
import SqliteReader.Proofs.TableRecords
import SqliteReader.Proofs.AllColumns
import SqliteReader.Proofs.CatalogRows
import SqliteReader.Proofs.ScannerPlace
import SqliteReader.Proofs.ChangingFile
import SqliteReader.Proofs.StoredHeader
import SqliteReader.Proofs.LetterCase
import SqliteReader.Proofs.AcceptedQueries
import SqliteReader.Proofs.HeaderGrammar
import SqliteReader.Proofs.RecordFields
import SqliteReader.Proofs.PagesReadBack
import SqliteReader.Proofs.PageCells
import SqliteReader.Proofs.PointerDamage
import SqliteReader.Proofs.ColumnsPicked
import SqliteReader.Proofs.VarintForms
import SqliteReader.Proofs.ParsedTables
import SqliteReader.Proofs.PrimaryKeys
import SqliteReader.Proofs.StoredEntries
import SqliteReader.Proofs.FaithfulRequests
import SqliteReader.Proofs.ListedTables
import SqliteReader.Proofs.ShellCommands
