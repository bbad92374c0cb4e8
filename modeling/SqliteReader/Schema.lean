import SqliteReader.Error
import SqliteReader.Text

/-!
# Table schemas

The shape of a table: its columns in order, and which of them stands for the row id. The catalog is
itself a table, of a fixed shape and at a fixed place.
-/
namespace SqliteReader

/-- A column of a table. -/
structure Column where
  name : String
  /-- The type as it was declared, empty when there is none. -/
  declaredType : String
  /-- The place of the column, counted from zero. -/
  position : Nat
  deriving Repr, DecidableEq

/-- The shape of a table and where it is stored. -/
structure TableSchema where
  tableName : String
  rootPage : PageNumber
  sql : String
  columns : List Column
  /-- The column whose null fields stand for the row id. -/
  primaryKey : Option Nat
  autoincrement : Bool
  deriving Repr, DecidableEq

/-- The root page of the catalog. -/
def catalogRoot : PageNumber := 1

/-- The names under which the catalog can be queried. -/
def catalogNames : List String := ["sqlite_schema", "sqlite_master"]

/-- Whether a name means the catalog. -/
def isCatalogName (name : String) : Bool := catalogNames.any (Text.sameName name)

namespace TableSchema

/-- The shape of the catalog, which has no row for itself. -/
def catalog : TableSchema where
  tableName := "sqlite_schema"
  rootPage := catalogRoot
  sql := ""
  columns := [⟨"type", "text", 0⟩, ⟨"name", "text", 1⟩, ⟨"tbl_name", "text", 2⟩,
    ⟨"rootpage", "integer", 3⟩, ⟨"sql", "text", 4⟩]
  primaryKey := none
  autoincrement := false

/-- The place of the first column with this name, up to the case of ASCII letters. -/
def columnIndex? (schema : TableSchema) (name : String) : Option Nat :=
  schema.columns.findIdx? fun column => Text.sameName column.name name

def columnNames (schema : TableSchema) : List String := schema.columns.map Column.name

/-- The column that stands for the row id, if the schema has as many columns as that. -/
def primaryKeyColumn? (schema : TableSchema) : Option Column :=
  schema.primaryKey.bind fun index => schema.columns[index]?

end TableSchema
end SqliteReader
