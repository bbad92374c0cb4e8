import SqliteReader.Sql.Error
import SqliteReader.Sql.Query

/-!
# Statements

A statement is a query, the creation of a table, or one that is only written out. What a `CREATE TABLE`
statement says is kept in detail: the columns with their types and options, the constraints on the table
as a whole, and the rest as it is written out. Which statements a text holds is for the dialect to say.
-/
namespace SqliteReader.Sql

/-! ## Data types -/

/-- The type that a column is declared with, or that an expression is cast to. -/
inductive DataType
  /-- A type that SQL gives a meaning to, in its canonical spelling. -/
  | known (spelling : String)
  | interval
  /-- Any other name, perhaps with arguments. -/
  | named (name : Path) (arguments : List String)
  deriving Repr, DecidableEq

namespace DataType

/-- The type as it is written out. -/
def text : DataType → String
  | known spelling => spelling
  | interval => "INTERVAL"
  | named name arguments =>
    if arguments.isEmpty then name.text else name.text ++ bracketed arguments

end DataType

/-! ## Creation of tables -/

/-- What an option says of its column. -/
inductive ColumnRule
  /-- The column is the primary key; what follows says when that is checked. -/
  | primaryKey (checked : Option String)
  /-- A single keyword, such as `AUTOINCREMENT`. -/
  | keyword (word : String)
  /-- Any other rule, as it is written out. -/
  | written (text : String)
  deriving Repr, DecidableEq

def ColumnRule.text : ColumnRule → String
  | primaryKey checked => followed "PRIMARY KEY" checked
  | keyword word => word
  | written text => text

/-- An option of a column, perhaps with a name of its own. -/
structure ColumnOption where
  name : Option Ident
  rule : ColumnRule
  deriving Repr, DecidableEq

/-- The words that give a constraint a name. -/
def constraintName (name : Option Ident) : List String :=
  (name.map fun name => "CONSTRAINT " ++ name.text).toList

def ColumnOption.text (option : ColumnOption) : String :=
  spaced (constraintName option.name ++ [option.rule.text])

/-- A column as a statement declares it. -/
structure ColumnDefinition where
  name : Ident
  type : Option DataType
  collation : Option String
  options : List ColumnOption
  deriving Repr, DecidableEq

def ColumnDefinition.text (column : ColumnDefinition) : String :=
  let parts := [some column.name.text, column.type.map DataType.text,
    column.collation.map ("COLLATE " ++ ·)]
  spaced (parts.filterMap id ++ column.options.map ColumnOption.text)

/-- A constraint on a table as a whole. -/
inductive TableConstraint
  /-- The named columns are the primary key; the rest is kept as it is written out. -/
  | primaryKey (head : String) (columns : List Ident) (tail : List String)
  | written (text : String)
  deriving Repr, DecidableEq

def TableConstraint.text : TableConstraint → String
  | primaryKey head columns tail => spaced (head :: bracketedNames columns :: tail)
  | written text => text

/-- A statement that creates a table. -/
structure CreateTable where
  /-- The words between `CREATE` and `TABLE`. -/
  modifiers : List String
  ifNotExists : Bool
  name : Path
  columns : List ColumnDefinition
  constraints : List TableConstraint
  /-- The clauses that follow the columns. -/
  clauses : List String
  /-- Whether the columns are taken from another table or from a query. -/
  hasSource : Bool
  deriving Repr, DecidableEq

def CreateTable.text (create : CreateTable) : String :=
  let members :=
    create.columns.map ColumnDefinition.text ++ create.constraints.map TableConstraint.text
  let list := if members.isEmpty && create.hasSource then [] else [bracketed members]
  let condition := if create.ifNotExists then ["IF NOT EXISTS"] else []
  spaced (["CREATE"] ++ create.modifiers ++ ["TABLE"] ++ condition ++ [create.name.text] ++ list ++
    create.clauses)

/-! ## Statements of a text -/

inductive Statement
  | query (query : Query)
  | createTable (create : CreateTable)
  /-- A request to explain another statement, as it is written out. -/
  | explain (text : String)
  /-- Any other statement, as it is written out. -/
  | written (text : String)
  deriving Repr

/-- The statement as it is written out. -/
def Statement.text : Statement → String
  | query body => body.text
  | createTable body => body.text
  | explain text | written text => text

/-- The SQL in which texts are written. -/
class Dialect where
  /-- The statements of a text, or why it is no sequence of statements. -/
  statements : String → Except Fault (List Statement)

/-- The only statement of a text. -/
def Statement.ofText [Dialect] (text : String) : Except PlanError Statement :=
  match Dialect.statements text with
  | .ok [statement] => .ok statement
  | .ok statements => .error (.statementCount statements.length)
  | .error fault => .error (.malformed fault)

end SqliteReader.Sql
