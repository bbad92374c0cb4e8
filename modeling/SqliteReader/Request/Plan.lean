import SqliteReader.Request
import SqliteReader.Sql.Statement

/-!
# Planning

The request that a query makes, or the reason why it makes none. Of several reasons the first counts:
the clauses come first, in the order in which they are checked here, then the tables from left to
right, then the select list from left to right.
-/
namespace SqliteReader
open Sql

/-- The error of an expression that is kept as it is written out. -/
def unsupportedText {α : Type} (text : String) : Except PlanError α :=
  .error (.unsupportedExpression (.written text))

/-- The last part of a path, which alone names a table. -/
def lastName (path : Path) : Except PlanError String :=
  match path.getLast? with
  | some ident => .ok ident.value
  | none => .error .emptyName

/-- The table that is read, which is neither a function nor a query. -/
def TableRef.ofFactor (factor : TableFactor) : Except PlanError TableRef :=
  match factor with
  | .table path none _ asName _ => do return ⟨← lastName path, asName.map (·.name.value)⟩
  | .table _ (some _) _ _ _ | .nested _ | .written _ => unsupportedText factor.text

/-- Whether a join puts every row of one side together with every row of the other. -/
def isUnconditional : JoinOperator → Bool
  | .cross | .on .inner .none => true
  | _ => false

/-- The table that is joined, which takes no condition. -/
def TableRef.ofJoin (join : Join) : Except PlanError TableRef :=
  if isUnconditional join.operator then ofFactor join.relation
  else .error (.unsupportedClause (.joinCondition join.operator.name))

/-- A table and those joined to it. -/
def TableRef.ofJoined (joined : JoinedTables) : Except PlanError (List TableRef) := do
  let first ← ofFactor joined.relation
  return first :: (← joined.joins.mapM ofJoin)

/-- The column that an expression names. Of a longer path the last two parts count: the table and the
column. -/
def ColumnRef.ofExpr (expr : Expr) : Except PlanError ColumnRef :=
  match expr with
  | .name ident => .ok ⟨none, ident.value⟩
  | .path parts =>
    match parts.reverse with
    | column :: table :: _ => .ok ⟨some table.value, column.value⟩
    | _ => unsupportedText expr.text
  | .nested inner => ofExpr inner
  | .call .. | .written _ => unsupportedText expr.text

/-- The aggregate that a call computes: a function of all rows, applied to the star or to one column
and to nothing else. -/
def Aggregate.ofCall (path : Path) (arguments : Arguments) (context : CallContext) :
    Except PlanError Aggregate :=
  let call := Expr.call path arguments context
  match AggregateFunction.ofName? path.text with
  | none => .error (.unsupportedExpression (.function path.text))
  | some function =>
    if context.window.isSome || context.filter.isSome then unsupportedText call.text
    else match arguments with
      | .list none [.star] _ => .ok ⟨function, none⟩
      | .list none [.value expr] _ => do return ⟨function, some (← ColumnRef.ofExpr expr)⟩
      | _ => unsupportedText call.text

/-- One item of a select list: a column or an aggregate. -/
def selected (item : SelectItem) : Except PlanError (ColumnRef ⊕ Aggregate) :=
  match item with
  | .star => .error (.unsupportedExpression .starMixed)
  | .tableStar _ => unsupportedText item.text
  | .value (.call function arguments context) _ =>
    Sum.inr <$> Aggregate.ofCall function arguments context
  | .value expr _ => Sum.inl <$> ColumnRef.ofExpr expr

/-- What a select list keeps of each row: all columns, some columns, or an aggregate alone. -/
def Projection.ofItems (items : List SelectItem) : Except PlanError Projection :=
  match items with
  | [.star] => .ok .wildcard
  | _ => do
    match ← items.mapM selected with
    | [.inr single] => return .aggregate single
    | selection =>
      if selection.any Sum.isRight then throw (.unsupportedExpression .aggregateMixed)
      return .columns (selection.filterMap Sum.getLeft?)

/-- Whether rows are put together by anything. -/
def isGrouped : Grouping → Bool
  | .keys [] => false
  | _ => true

namespace Request

/-- The clause of a query that is not carried out, apart from its main part. -/
def outerClause? (query : Query) : Option Clause :=
  if query.named.isSome then some .withQueries
  else if query.orderBy.isSome then some .orderBy
  else if query.limit.isSome || query.offset.isSome || query.fetch.isSome then some .limit
  else none

/-- The clause of a plain `SELECT` that is not carried out. -/
def innerClause? (select : Select) : Option Clause :=
  if select.distinct.isSome then some .distinct
  else if select.filter.isSome then some .filter
  else if isGrouped select.grouping then some .groupBy
  else if select.having.isSome then some .having
  else none

/-- The request of a plain `SELECT`. -/
def ofSelect (select : Select) : Except PlanError Request :=
  match innerClause? select with
  | some clause => .error (.unsupportedClause clause)
  | none =>
    if select.tables.isEmpty then .error .noTables
    else do
      let tables ← select.tables.mapM TableRef.ofJoined
      return ⟨tables.flatten, ← Projection.ofItems select.items⟩

/-- The request that a query makes. -/
def ofQuery (query : Query) : Except PlanError Request :=
  match outerClause? query with
  | some clause => .error (.unsupportedClause clause)
  | none =>
    match query.body with
    | .select select => ofSelect select
    | .setOperation operator _ => .error (.unsupportedClause (.setOperation operator.text))
    | .written text => .error (.unsupportedStatement text)

/-- The request that the only statement of a text makes. -/
def ofSql [Dialect] (text : String) : Except PlanError Request := do
  match ← Statement.ofText text with
  | .query query => ofQuery query
  | statement => throw (.unsupportedStatement statement.text)

end Request
end SqliteReader
