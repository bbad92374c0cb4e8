/-!
# Why a statement is refused

A text can fail to be SQL at all (`Fault`), and SQL can ask for more than this engine does
(`PlanError`).
-/
namespace SqliteReader.Sql

/-- Why a text is no sequence of SQL statements. -/
inductive Fault
  /-- Some token stands where the grammar has no place for it. -/
  | unexpected
  /-- Statements, queries or expressions are nested too deeply. -/
  | tooDeep
  /-- A quoted text or a comment has no end. -/
  | unterminated
  deriving Repr, DecidableEq

def Fault.message : Fault → String
  | unexpected => "unexpected token"
  | tooDeep => "recursion limit exceeded"
  | unterminated => "unterminated text"

/-- A clause of a query that the engine does not carry out. -/
inductive Clause
  | withQueries
  | orderBy
  | limit
  | setOperation (operator : String)
  | distinct
  | filter
  | groupBy
  | having
  /-- A join of this kind, or with a condition. -/
  | joinCondition (kind : String)
  deriving Repr, DecidableEq

def Clause.text : Clause → String
  | withQueries => "WITH"
  | orderBy => "ORDER BY"
  | limit => "LIMIT"
  | setOperation operator => operator
  | distinct => "DISTINCT"
  | filter => "WHERE"
  | groupBy => "GROUP BY"
  | having => "HAVING"
  | joinCondition kind => "join condition (" ++ kind ++ ")"

/-- An expression that is no column and no aggregate of one. -/
inductive Expression
  /-- The expression as it is written out. -/
  | written (text : String)
  /-- A function that is no aggregate. -/
  | function (name : String)
  | starMixed
  | aggregateMixed
  deriving Repr, DecidableEq

def Expression.text : Expression → String
  | written text => text
  | function name => "function " ++ name
  | starMixed => "* mixed with other columns"
  | aggregateMixed => "aggregate mixed with other columns"

/-- Why a text cannot be turned into a request or a table definition. -/
inductive PlanError
  | malformed (fault : Fault)
  | unsupportedStatement (text : String)
  | unsupportedExpression (expression : Expression)
  | unsupportedClause (clause : Clause)
  /-- The text holds some other number of statements than one. -/
  | statementCount (count : Nat)
  | noTables
  | emptyName
  deriving Repr, DecidableEq

def PlanError.message : PlanError → String
  | malformed fault => "SQL parsing error: sql parser error: " ++ fault.message
  | unsupportedStatement text => "Unsupported statement: " ++ text
  | unsupportedExpression expression => "Unsupported expression: " ++ expression.text
  | unsupportedClause clause => "Unsupported clause: " ++ clause.text
  | statementCount count =>
    s!"Invalid query structure: Expected exactly one statement, found {count}"
  | noTables => "Invalid query structure: SELECT without FROM"
  | emptyName => "Invalid query structure: empty object name"

/-- Whether the text itself is at fault, and not the engine's limits. -/
def PlanError.isParseError : PlanError → Bool
  | malformed _ | statementCount _ | noTables | emptyName => true
  | unsupportedStatement _ | unsupportedExpression _ | unsupportedClause _ => false

end SqliteReader.Sql
