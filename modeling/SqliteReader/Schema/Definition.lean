import SqliteReader.Request.Plan
import SqliteReader.Schema

/-!
# Table definitions

The columns that a `CREATE TABLE` statement declares, and which of them stands for the row id.
-/
namespace SqliteReader
open Sql

/-- What a `CREATE TABLE` statement says about the shape of a table. -/
structure TableDefinition where
  name : String
  columns : List Column
  primaryKey : Option Nat
  autoincrement : Bool
  deriving Repr, DecidableEq

/-- Whether a column is declared as the primary key. -/
def isKey (column : ColumnDefinition) : Bool :=
  column.options.any fun option =>
    match option.rule with
    | .primaryKey _ => true
    | _ => false

/-- Whether the numbers of a column are never used again. -/
def isAutoincrement (column : ColumnDefinition) : Bool :=
  column.options.any fun option =>
    match option.rule with
    | .keyword word => Text.sameName word "AUTOINCREMENT"
    | _ => false

namespace TableDefinition

/-- The column with its place among the others. -/
def column (definition : ColumnDefinition) (position : Nat) : Column :=
  ⟨definition.name.value, (definition.type.map DataType.text).getD "", position⟩

/-- The column that a constraint on the table makes the primary key. A key of several columns cannot
stand for the row id. -/
def keyOf? (columns : List Column) : TableConstraint → Option Nat
  | .primaryKey _ [key] _ => columns.findIdx? fun column => Text.sameName column.name key.value
  | _ => none

/-- The definition that a statement gives. The first column declared as the primary key counts, and only
without one do the constraints on the table. -/
def ofCreate (create : CreateTable) : Except PlanError TableDefinition := do
  let name ← lastName create.name
  if create.columns.isEmpty then
    throw (.unsupportedStatement ("CREATE TABLE " ++ name ++ " without a column list"))
  let columns := create.columns.zipIdx.map fun (definition, position) => column definition position
  let declared := create.columns.findIdx? isKey
  let primaryKey := declared.or (create.constraints.findSome? (keyOf? columns))
  return ⟨name, columns, primaryKey, create.columns.any isAutoincrement⟩

/-- The definition that the only statement of a text gives. -/
def ofSql [Dialect] (text : String) : Except PlanError TableDefinition := do
  match ← Statement.ofText text with
  | .createTable create => ofCreate create
  | statement => throw (.unsupportedStatement statement.text)

end TableDefinition
end SqliteReader
