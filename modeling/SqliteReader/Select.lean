import SqliteReader.Catalog

/-!
# Answering requests

The tables of a request are read one after the other, each through a selection that says where every
column of the result comes from; their rows are laid end to end. The columns have the names that the
first table gives them. `COUNT(*)` counts the rows of all tables.
-/
namespace SqliteReader

/-- Where the values of a column come from. -/
inductive Source
  /-- A field of the record, counted from zero. -/
  | field (index : Nat)
  | rowId
  deriving Repr, DecidableEq

/-- The names of the row id, for tables that have no column of that name. -/
def rowIdNames : List String := ["rowid", "_rowid_", "oid"]

/-- The columns of a result, taken from one table. -/
structure Selection where
  names : List String
  sources : List Source
  deriving Repr, DecidableEq

namespace Source

/-- The source of the column of this name. -/
def ofName (schema : TableSchema) (name : String) : Except Error Source :=
  match schema.columnIndex? name with
  | some index => .ok (field index)
  | none =>
    if rowIdNames.any (Text.sameName name) then .ok rowId
    else .error (.columnNotFound name schema.tableName)

/-- The source of a column that a request names, when `table` is read. A column of another table of the
request is not read here, and no other table can be named. -/
def ofColumn (request : Request) (table : TableRef) (schema : TableSchema) (column : ColumnRef) :
    Except Error Source :=
  match column.table with
  | none => ofName schema column.name
  | some qualifier =>
    if table.isNamed qualifier then ofName schema column.name
    else if request.tables.any (·.isNamed qualifier) then
      .error (.unsupportedQuery (.otherTable column.qualifiedName))
    else .error (.columnNotFound column.qualifiedName schema.tableName)

/-- The value that a record has for the column at `index`. A record may have fewer fields than there are
columns; the others are null. A null in the primary key stands for the row id. -/
def fieldValue (schema : TableSchema) (record : Record) (index : Nat) : Except Error Value := do
  let value ← if index < record.fieldCount then record.value index else .ok .null
  if value.isNull && schema.primaryKey == some index then return .int64 record.rowId
  return value

def value (schema : TableSchema) (record : Record) : Source → Except Error Value
  | field index => fieldValue schema record index
  | rowId => .ok (.int64 record.rowId)

end Source

namespace Selection

/-- All columns of a table. -/
def all (schema : TableSchema) : Selection :=
  ⟨schema.columnNames, (List.range schema.columns.length).map .field⟩

/-- The columns that a request names, when `table` is read. -/
def ofColumns (request : Request) (table : TableRef) (schema : TableSchema)
    (columns : List ColumnRef) : Except Error Selection := do
  let sources ← columns.mapM (Source.ofColumn request table schema)
  return ⟨columns.map ColumnRef.qualifiedName, sources⟩

/-- The row that a record gives. -/
def row (selection : Selection) (schema : TableSchema) (record : Record) : Except Error Row := do
  let values ← selection.sources.mapM (Source.value schema record)
  return ⟨some record.rowId, values⟩

end Selection

namespace Request
variable [Sql.Dialect]

/-- The rows of one table, through the selection that `select` makes from its schema. -/
def readTable (select : TableRef → TableSchema → Except Error Selection) (table : TableRef) :
    Reading ResultSet := do
  let schema ← Catalog.findSchema table.name
  let selection ← MonadExcept.ofExcept (select table schema)
  let step (rows : List Row) (record : Record) : Except Error (List Row) := do
    return (← selection.row schema record) :: rows
  let (rows, skipped) ← foldRecords step [] schema.rootPage
  return ⟨selection.names, rows.reverse, skipped⟩

/-- The number of records in one table, with the errors of those passed over. -/
def countTable (table : TableRef) : Reading (Nat × List Error) := do
  let schema ← Catalog.findSchema table.name
  foldRecords (fun count _ => .ok (count + 1)) 0 schema.rootPage

/-- The number of records in all tables. -/
def count (tables : List TableRef) : Reading ResultSet := do
  let counts ← tables.mapM countTable
  let total := counts.foldl (fun total read => total + read.1) 0
  let row : Row := ⟨none, [.int64 (Int64.ofNat total)]⟩
  return ⟨[Aggregate.countStar.label], [row], counts.flatMap Prod.snd⟩

/-- The rows of all tables. -/
def read (select : TableRef → TableSchema → Except Error Selection) (tables : List TableRef) :
    Reading ResultSet :=
  ResultSet.concat <$> tables.mapM (readTable select)

/-- The answer to a request. -/
def execute (request : Request) : Reading ResultSet := do
  if request.tables.isEmpty then throw .noTable
  match request.projection with
  | .wildcard => read (fun _ schema => .ok (.all schema)) request.tables
  | .columns columns =>
    read (fun table schema => Selection.ofColumns request table schema columns) request.tables
  | .aggregate function =>
    if function = .countStar then count request.tables
    else throw (.unsupportedQuery (.aggregate function.label))

/-- The answer to the only query of a text. -/
def executeSql (text : String) : Reading ResultSet :=
  match ofSql text with
  | .ok request => request.execute
  | .error error => throw (.ofPlan error)

end Request
end SqliteReader
