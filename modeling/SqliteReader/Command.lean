import SqliteReader.Select

/-!
# Commands

A command is either one of a few words that begin with a point, or SQL.
-/
namespace SqliteReader

inductive Command
  /-- The page size, and how much the catalog holds. -/
  | databaseInfo
  /-- The names of the tables. -/
  | tables
  /-- The statements that the catalog holds. -/
  | schema
  | sql (text : String)
  deriving Repr, DecidableEq

namespace Command

/-- The command that a word with a point names, up to the case of ASCII letters. -/
def ofWord (word : String) : Except Error Command :=
  match Text.lower word with
  | ".dbinfo" => .ok databaseInfo
  | ".tables" => .ok tables
  | ".schema" => .ok schema
  | _ => .error (.unknownCommand word)

/-- The command of an input line. Behind a word with a point nothing counts. -/
def ofText (input : String) : Except Error Command :=
  let input := Text.trim input
  if input.toList.head? = some '.' then ofWord (Text.firstWord input) else .ok (sql input)

/-- What a command answers, as text. -/
def execute [Sql.Dialect] (command : Command) : Reading String := do
  match command with
  | databaseInfo =>
    let pageSize := (← get).pageSize
    let count := (← Catalog.entries).results.length
    return s!"database page size: {pageSize}\nnumber of tables: {count}"
  | tables => return " ".intercalate (← Catalog.tableNames)
  | schema =>
    let statements := (← Catalog.entries).results.filterMap Entry.sql
    return "\n".intercalate (statements.map (· ++ ";"))
  | sql text => return (← Request.executeSql text).display

/-- What the command of an input line answers, as text. -/
def run [Sql.Dialect] (input : String) : Reading String :=
  match ofText input with
  | .ok command => command.execute
  | .error error => throw error

end Command
end SqliteReader
