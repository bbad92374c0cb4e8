import SqliteReader.Record
import SqliteReader.Scan
import SqliteReader.Schema.Definition

/-!
# The catalog

The catalog is the table at page one. Each of its rows describes one table, index, view or trigger:
`Entry.ofRecord` reads such a row and `Entry.toValues` writes one. The catalog is scanned anew for every
question asked of it: all entries, the table of a name, the schema of that table, the names of all
tables, a scanner over a table.
-/
namespace SqliteReader

/-- What a catalog entry describes. -/
inductive EntryKind
  | table
  | index
  | view
  | trigger
  /-- A kind that this library does not know, by its word. -/
  | other (word : String)
  deriving Repr, DecidableEq

namespace EntryKind

/-- The kind that a word names. -/
def ofWord (word : String) : EntryKind :=
  if word = "table" then table
  else if word = "index" then index
  else if word = "view" then view
  else if word = "trigger" then trigger
  else other word

/-- The word that names a kind. -/
def word : EntryKind → String
  | table => "table"
  | index => "index"
  | view => "view"
  | trigger => "trigger"
  | other word => word

end EntryKind

/-- One row of the catalog. -/
structure Entry where
  kind : EntryKind
  name : String
  tableName : String
  /-- Zero for what has no pages of its own, such as a view. -/
  rootPage : PageNumber
  sql : Option String
  deriving Repr, DecidableEq

namespace Entry

/-- The text that a field of a catalog row holds. -/
def textField (record : Record) (index : Nat) (column : String) : Except Error String := do
  match ← record.value index with
  | .text s => return s
  | value => throw (.corruptedRecord (.catalogValue column value))

/-- The page number that a value gives; null stands for zero. -/
def rootOf (value : Value) : Except Error PageNumber :=
  match value.toInt? with
  | some page =>
    if 0 ≤ page ∧ page < UInt32.size then .ok (UInt32.ofNat page.toNat)
    else .error (.corruptedRecord (.catalogValue "rootpage" value))
  | none =>
    if value.isNull then .ok 0 else .error (.corruptedRecord (.catalogValue "rootpage" value))

/-- The statement that a value gives, or null for none. -/
def sqlOf : Value → Except Error (Option String)
  | .null => .ok none
  | .text s => .ok (some s)
  | value => .error (.corruptedRecord (.catalogValue "sql" value))

/-- The entry that a catalog row holds. Of several faults the root page counts first, then the
statement, then the texts; fields behind the fifth are not looked at. -/
def ofRecord (record : Record) : Except Error Entry := do
  if record.fieldCount < 5 then
    throw (.corruptedRecord (.catalogFields record.rowId record.fieldCount))
  let rootPage ← rootOf (← record.value 3)
  let sql ← sqlOf (← record.value 4)
  let kind ← textField record 0 "column type"
  let name ← textField record 1 "column name"
  let tableName ← textField record 2 "column tbl_name"
  return ⟨EntryKind.ofWord kind, name, tableName, rootPage, sql⟩

/-- The entry as a row of the catalog. -/
def toValues (entry : Entry) : List Value :=
  [.text entry.kind.word, .text entry.name, .text entry.tableName,
    .int64 (Int64.ofNat entry.rootPage.toNat), (entry.sql.map Value.text).getD .null]

/-- Names that start so are kept for internal tables. -/
def internalStart : String := "sqlite_"

/-- Whether the entry is a table that a user made. -/
def isUserTable (entry : Entry) : Bool :=
  entry.kind == .table && !internalStart.toList.isPrefixOf entry.name.toList

end Entry

/-! ## Questions to the catalog -/

namespace Catalog

/-- The entry that a row of the catalog holds. -/
def entryOf (cell : LeafCell) : Except Error Entry := (Record.ofCell cell).bind Entry.ofRecord

/-- All entries in order. The errors of rows that hold none come before those of rows that could not
be read. -/
def entries : Reading (Partial Entry) := do
  let cells ← scanTable catalogRoot
  let entries := Partial.ofOutcomes (cells.results.map entryOf)
  return { entries with errors := entries.errors ++ cells.errors }

/-- Whether an entry is the table of this name, up to the case of ASCII letters. -/
def isTable (name : String) (entry : Entry) : Bool :=
  entry.kind == .table && Text.sameName entry.name name

/-- The root page of a table, and the statement that creates it. -/
def findTable (name : String) : Reading (PageNumber × String) := do
  if isCatalogName name then return (catalogRoot, "")
  match (← entries).results.find? (isTable name) with
  | some entry => return (entry.rootPage, entry.sql.getD "")
  | none => throw (.tableNotFound name)

/-- The schema of the table `name` at `root` whose statement is `sql`. -/
def schemaOf [Sql.Dialect] (name : String) (root : PageNumber) (sql : String) : Except Error TableSchema :=
  match TableDefinition.ofSql sql with
  | .ok definition => .ok {
      tableName := definition.name, rootPage := root, sql
      columns := definition.columns, primaryKey := definition.primaryKey
      autoincrement := definition.autoincrement }
  | .error error => .error (.corruptedRecord (.tableText name error))

def findSchema [Sql.Dialect] (name : String) : Reading TableSchema := do
  if isCatalogName name then return .catalog
  let (root, sql) ← findTable name
  MonadExcept.ofExcept (schemaOf name root sql)

/-- The names of the tables that users made. -/
def tableNames : Reading (List String) :=
  return ((← entries).results.filter Entry.isUserTable).map Entry.name

/-- A scanner at the start of the table of this name. -/
def scannerOf (name : String) : Reading Scanner := do
  let (root, _) ← findTable name
  return .new name root

end Catalog
end SqliteReader
