import SqliteReader.Sql.Expr

/-!
# Queries

A query with all its clauses. The parts that a request is made of, the select list and the tables, are
kept as they are built; every other clause is kept as it is written out.
-/
namespace SqliteReader.Sql

/-- An alias of a table, perhaps with names for its columns. -/
structure TableAlias where
  name : Ident
  columns : List String
  deriving Repr, DecidableEq

def TableAlias.text (asName : TableAlias) : String :=
  if asName.columns.isEmpty then asName.name.text
  else asName.name.text ++ " " ++ bracketed asName.columns

/-- What rows are read from. -/
inductive TableFactor
  /-- A table by its name, or a function of the given arguments, with the clauses before its alias and
  behind it as they are written out. -/
  | table (name : Path) (arguments : Option String) (before : List String)
      (asName : Option TableAlias) (behind : List String)
  /-- Joined tables in brackets, as they are written out. -/
  | nested (text : String)
  /-- A query in brackets or anything else that is no table, as it is written out. -/
  | written (text : String)
  deriving Repr, DecidableEq

/-- A head with an alias behind it, if there is one. -/
def aliased (head : String) (asName : Option String) : String :=
  followed head (asName.map ("AS " ++ ·))

def TableFactor.text : TableFactor → String
  | table name arguments before asName behind =>
    let head := spaced ((name.text ++ arguments.getD "") :: before)
    spaced (aliased head (asName.map TableAlias.text) :: behind)
  | nested text | written text => text

/-- Which rows of two tables a join puts together. -/
inductive JoinConstraint
  | none
  | natural
  /-- The condition as it is written out. -/
  | on (condition : String)
  | using (columns : List Ident)
  deriving Repr, DecidableEq

/-- The kinds of join that take a constraint. -/
inductive JoinKind
  | inner
  | leftOuter
  | rightOuter
  | fullOuter
  | semi
  | leftSemi
  | rightSemi
  | anti
  | leftAnti
  | rightAnti
  deriving Repr, DecidableEq

def JoinKind.words : JoinKind → String
  | inner => "JOIN"
  | leftOuter => "LEFT JOIN"
  | rightOuter => "RIGHT JOIN"
  | fullOuter => "FULL JOIN"
  | semi => "SEMI JOIN"
  | leftSemi => "LEFT SEMI JOIN"
  | rightSemi => "RIGHT SEMI JOIN"
  | anti => "ANTI JOIN"
  | leftAnti => "LEFT ANTI JOIN"
  | rightAnti => "RIGHT ANTI JOIN"

def JoinKind.name : JoinKind → String
  | inner => "Inner"
  | leftOuter => "LeftOuter"
  | rightOuter => "RightOuter"
  | fullOuter => "FullOuter"
  | semi => "Semi"
  | leftSemi => "LeftSemi"
  | rightSemi => "RightSemi"
  | anti => "Anti"
  | leftAnti => "LeftAnti"
  | rightAnti => "RightAnti"

inductive JoinOperator
  | cross
  | on (kind : JoinKind) (constraint : JoinConstraint)
  | crossApply
  | outerApply
  /-- A join with the nearest row, by a condition as it is written out. -/
  | asOf (condition : String) (constraint : JoinConstraint)
  deriving Repr, DecidableEq

def JoinOperator.name : JoinOperator → String
  | cross => "CrossJoin"
  | on kind _ => kind.name
  | crossApply => "CrossApply"
  | outerApply => "OuterApply"
  | asOf _ _ => "AsOf"

structure Join where
  isGlobal : Bool
  operator : JoinOperator
  relation : TableFactor
  deriving Repr, DecidableEq

def Join.text (join : Join) : String :=
  let relation := join.relation.text
  let constrained (head : String) : JoinConstraint → String
    | .none => head
    | .natural => "NATURAL " ++ head
    | .on condition => head ++ " ON " ++ condition
    | .using columns => head ++ " USING" ++ bracketedNames columns
  let text := match join.operator with
    | .cross => "CROSS JOIN " ++ relation
    | .on kind constraint => constrained (kind.words ++ " " ++ relation) constraint
    | .crossApply => "CROSS APPLY " ++ relation
    | .outerApply => "OUTER APPLY " ++ relation
    | .asOf condition constraint =>
      constrained s!"ASOF JOIN {relation} MATCH_CONDITION ({condition})" constraint
  if join.isGlobal then "GLOBAL " ++ text else text

structure JoinedTables where
  relation : TableFactor
  joins : List Join
  deriving Repr, DecidableEq

def JoinedTables.text (tables : JoinedTables) : String :=
  spaced (tables.relation.text :: tables.joins.map Join.text)

inductive SelectItem
  | star
  /-- All columns of one table. -/
  | tableStar (table : Path)
  | value (expr : Expr) (asName : Option Ident)
  deriving Repr

def SelectItem.text : SelectItem → String
  | star => "*"
  | tableStar table => table.text ++ ".*"
  | value expr asName => aliased expr.text (asName.map Ident.text)

/-- What rows are put together by. -/
inductive Grouping
  | all
  /-- The keys as they are written out; none when there is no grouping. -/
  | keys (keys : List String)
  deriving Repr, DecidableEq

structure Select where
  distinct : Option String
  top : Option String
  items : List SelectItem
  into : Option String
  tables : List JoinedTables
  lateralViews : List String
  filter : Option String
  grouping : Grouping
  clusterBy : List String
  distributeBy : List String
  sortBy : List String
  having : Option String
  windows : List String
  qualify : Option String
  /-- Whether the windows are named before the qualification. -/
  windowsFirst : Bool
  deriving Repr

/-- The items behind a keyword, if there are any. -/
def clause (keyword : String) (items : List String) : Option String :=
  if items.isEmpty then none else some (keyword ++ " " ++ listed items)

def Grouping.text : Grouping → Option String
  | all => some "GROUP BY ALL"
  | keys items => clause "GROUP BY" items

def Select.text (select : Select) : String :=
  let windows := clause "WINDOW" select.windows
  let qualify := select.qualify.map ("QUALIFY " ++ ·)
  let clauses := [some "SELECT", select.distinct, select.top,
    some (listed (select.items.map SelectItem.text)), select.into.map ("INTO " ++ ·),
    clause "FROM" (select.tables.map JoinedTables.text)] ++ select.lateralViews.map some ++
    [select.filter.map ("WHERE " ++ ·), select.grouping.text, clause "CLUSTER BY" select.clusterBy,
    clause "DISTRIBUTE BY" select.distributeBy, clause "SORT BY" select.sortBy,
    select.having.map ("HAVING " ++ ·)] ++
    if select.windowsFirst then [windows, qualify] else [qualify, windows]
  spaced (clauses.filterMap id)

/-- What puts two queries together. -/
inductive SetOperator
  | union
  | except
  | intersect
  | minus
  deriving Repr, DecidableEq

def SetOperator.text : SetOperator → String
  | union => "UNION"
  | except => "EXCEPT"
  | intersect => "INTERSECT"
  | minus => "MINUS"

inductive QueryBody
  | select (select : Select)
  /-- Two queries put together, as the whole is written out. -/
  | setOperation (operator : SetOperator) (text : String)
  /-- Listed values, a query in brackets or anything else, as it is written out. -/
  | written (text : String)
  deriving Repr

def QueryBody.text : QueryBody → String
  | select plain => plain.text
  | setOperation _ text | written text => text

structure Query where
  /-- The named queries that it begins with. -/
  named : Option String
  body : QueryBody
  orderBy : Option String
  limit : Option String
  offset : Option String
  fetch : Option String
  locks : List String
  forClause : Option String
  deriving Repr

def Query.text (query : Query) : String :=
  let clauses := [query.named, some query.body.text, query.orderBy,
    query.limit.map ("LIMIT " ++ ·), query.offset, query.fetch] ++ query.locks.map some ++
    [query.forClause]
  spaced (clauses.filterMap id)

end SqliteReader.Sql
