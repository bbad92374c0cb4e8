import SqliteReader.Sql.Parser.Expr
import SqliteReader.Text

/-!
# Parsing queries

A query is a body, with named queries before it and clauses for order and length behind it. A body is a
`SELECT`, listed values or a query in brackets, or several of them put together. A part that nothing looks
into is kept as it is written out.
-/
namespace SqliteReader.Sql.Grammar
open Sql.Parser

/-- An alias, if one follows. Behind `AS` every word is one, elsewhere none of `reserved` is. -/
def aliasBut (reserved : List String) : Parser (Option Ident) := do
  let marked ← takeKeyword "AS"
  match ← ahead 0 with
  | some (.word ident keyword) =>
    if marked || !keyword.any reserved.contains then modify List.tail; return some ident
    return none
  | some (.text value) => modify List.tail; return some ⟨value, some .single⟩
  | _ => if marked then fail else return none

def aliasColumn : Parser String := do
  let name ← ident
  let type ← attempt DataType.parse
  return followed name.text (type.map DataType.text)

def aliasColumns : Parser (List String) := do
  if ← atSign "(" then inBrackets (separated aliasColumn) else return []

def tableAlias : Parser (Option TableAlias) := do
  match ← aliasBut Keyword.notTableAlias with
  | some name => return some ⟨name, ← aliasColumns⟩
  | none => return none

/-- `text` with the alias that follows, if there is one. -/
def withAlias (text : String) : Parser String := do
  return aliased text ((← tableAlias).map TableAlias.text)

/-- The arguments of a table function in brackets, as they are written out. -/
def tableArguments (grammar : Grammar) : Parser String := do
  expectSign "("
  if ← takeSign ")" then return "()"
  let items ← separated grammar.argument
  expectSign ")"
  return bracketed (items.map Argument.text)

def numberText : Parser String := do
  match ← next with
  | .number text long => return if long then text ++ "L" else text
  | _ => fail

def bucket (grammar : Grammar) : Parser String := do
  let chosen ← numberText
  expectKeywords ["OUT", "OF"]
  let total ← numberText
  let key ← behind "ON" grammar.exprText
  return followed s!"BUCKET {chosen} OUT OF {total}" (key.map ("ON " ++ ·))

def sampleSize (grammar : Grammar) : Parser String := do
  match ← attempt grammar.exprText with
  | some size => return followed size (← takeOneOf ["ROWS", "PERCENT"])
  | none =>
    match ← next with
    | .word size _ => return followed size.value (← takeOneOf ["ROWS", "PERCENT"])
    | _ => fail

/-- A sample of a table, if one is asked for, as it is written out. -/
def sample (grammar : Grammar) : Parser (Option String) := do
  let some word ← takeOneOf ["TABLESAMPLE", "SAMPLE"] | return none
  let method ← takeOneOf ["BERNOULLI", "ROW", "SYSTEM", "BLOCK"]
  let size ←
    if ← takeSign "(" then
      let size ← if ← takeKeyword "BUCKET" then grammar.bucket else grammar.sampleSize
      expectSign ")"
      pure ("(" ++ size ++ ")")
    else grammar.sampleSize
  let seed ← match ← takeOneOf ["REPEATABLE", "SEED"] with
    | some word => do pure [s!"{word} ({← inBrackets numberText})"]
    | none => pure []
  let offset ← behind "OFFSET" grammar.exprText
  return some (spaced (word :: method.toList ++ [size] ++ seed ++
    (offset.map ("OFFSET " ++ ·)).toList))

/-- Which rows a join puts together. -/
def joinConstraint (grammar : Grammar) (natural : Bool) : Parser JoinConstraint := do
  if natural then return .natural
  if ← takeKeyword "ON" then return .on (← grammar.exprText)
  if ← takeKeyword "USING" then return .using (← names)
  return .none

def joinKind (natural : Bool) : Parser (Option JoinKind) := do
  let sided (left : Bool) : Parser JoinKind := do
    match ← takeOneOf ["OUTER", "SEMI", "ANTI"] with
    | some "SEMI" => expectKeyword "JOIN"; return if left then .leftSemi else .rightSemi
    | some "ANTI" => expectKeyword "JOIN"; return if left then .leftAnti else .rightAnti
    | _ => expectKeyword "JOIN"; return if left then .leftOuter else .rightOuter
  let kind (kind : JoinKind) : Parser (Option JoinKind) := do
    expectKeyword "JOIN"
    return some kind
  match ← takeOneOf ["INNER", "JOIN", "LEFT", "RIGHT", "FULL", "ANTI", "SEMI"] with
  | some "INNER" => kind .inner
  | some "JOIN" => return some .inner
  | some "LEFT" => some <$> sided true
  | some "RIGHT" => some <$> sided false
  | some "FULL" => let _ ← takeKeyword "OUTER"; kind .fullOuter
  | some "ANTI" => kind .anti
  | some "SEMI" => kind .semi
  | _ => if natural then fail else return none

def join (grammar : Grammar) (factor : Parser TableFactor) : Parser (Option Join) := do
  let isGlobal ← takeKeyword "GLOBAL"
  if ← takeKeyword "CROSS" then
    let word ← expectOneOf ["JOIN", "APPLY"]
    let operator := if word = "JOIN" then .cross else .crossApply
    return some ⟨isGlobal, operator, ← factor⟩
  if ← takeKeyword "OUTER" then
    expectKeyword "APPLY"
    return some ⟨isGlobal, .outerApply, ← factor⟩
  if ← takeKeyword "ASOF" then
    expectKeyword "JOIN"
    let relation ← factor
    expectKeyword "MATCH_CONDITION"
    let condition ← inBrackets grammar.exprText
    return some ⟨isGlobal, .asOf condition (← grammar.joinConstraint false), relation⟩
  let natural ← takeKeyword "NATURAL"
  let some kind ← joinKind natural | return none
  let relation ← factor
  return some ⟨isGlobal, .on kind (← grammar.joinConstraint natural), relation⟩

/-- A table and those joined to it, each read by `factor`. -/
def joinedBy (grammar : Grammar) (factor : Parser TableFactor) : Parser JoinedTables := do
  let relation ← factor
  return ⟨relation, ← many (grammar.join factor)⟩

/-- A query in brackets behind the opening one, with its alias. -/
def derivedTable (grammar : Grammar) (head : String) : Parser TableFactor := do
  let query ← grammar.query
  expectSign ")"
  return .written (← withAlias s!"{head}({query.text})")

/-- A table or a table function, with its alias and what may follow. -/
def namedTable (grammar : Grammar) : Parser TableFactor := do
  let name ← path
  let arguments ← onlyIf (atSign "(") grammar.tableArguments
  let before := if ← takeKeywords ["WITH", "ORDINALITY"] then ["WITH ORDINALITY"] else []
  let asName ← tableAlias
  let hints ←
    if (← atKeyword "WITH") && (← ahead 1) == some (.sign "(") then
      modify List.tail
      pure ["WITH " ++ bracketed (← inBrackets (separated grammar.exprText))]
    else pure []
  return .table name arguments before asName (hints ++ (← grammar.sample).toList)

/-- What rows are read from, where fewer than `depth` joins are nested in one another. -/
def tableFactorTo (grammar : Grammar) : (depth : Nat) → Parser TableFactor
  | 0 => fail
  | depth + 1 => do
    if ← takeKeyword "LATERAL" then
      if ← takeSign "(" then return ← grammar.derivedTable "LATERAL "
      let name ← path
      return .written (← withAlias s!"LATERAL {name.text}{← grammar.tableArguments}")
    if ← takeKeyword "TABLE" then
      return .written (← withAlias s!"TABLE({← inBrackets grammar.exprText})")
    unless ← takeSign "(" do return ← grammar.namedTable
    if let some derived ← attempt (grammar.derivedTable "") then return derived
    let tables ← grammar.joinedBy (tableFactorTo grammar depth)
    if tables.joins.isEmpty then
      let .nested _ := tables.relation | fail
    expectSign ")"
    return .nested (← withAlias s!"({tables.text})")

def joinedTables (grammar : Grammar) : Parser JoinedTables := do
  grammar.joinedBy (grammar.tableFactorTo ((← get).length + 1))

/-- An item of a select list. The word `FROM` alone is none. -/
def selectItem (grammar : Grammar) : Parser SelectItem := do
  match ← grammar.starred with
  | .star => return .star
  | .tableStar table => return .tableStar table
  | .value expr =>
    if let .name ⟨value, none⟩ := expr then
      if Text.sameName value "from" then fail
    return .value expr (← aliasBut Keyword.notColumnAlias)

def distinct (grammar : Grammar) : Parser (Option String) := do
  let all ← takeKeyword "ALL"
  unless ← takeKeyword "DISTINCT" do return none
  if all then fail
  unless ← takeKeyword "ON" do return some "DISTINCT"
  let keys ← inBrackets do
    if ← atSign ")" then return [] else separated grammar.exprText
  return some ("DISTINCT ON " ++ bracketed keys)

def top (grammar : Grammar) : Parser String := do
  let count ←
    if ← atSign "(" then do pure s!"({← inBrackets grammar.exprText})"
    else toString <$> natural
  let percent ← takeKeyword "PERCENT"
  let ties ← takeKeywords ["WITH", "TIES"]
  return spaced (["TOP", count] ++ (if percent then ["PERCENT"] else []) ++
    if ties then ["WITH TIES"] else [])

def into : Parser String := do
  let temporary ← takeOneOf ["TEMP", "TEMPORARY"]
  let unlogged ← wordIf "UNLOGGED"
  let table ← wordIf "TABLE"
  return spaced ((temporary.map fun _ => "TEMPORARY").toList ++ unlogged ++ table ++
    [Path.text (← path)])

def lateralView (grammar : Grammar) : Parser String := do
  let outer ← wordIf "OUTER"
  let expr ← grammar.exprText
  let name ← path
  let columns ← separated (aliasBut ["WHERE", "GROUP", "CLUSTER", "HAVING", "LATERAL"])
  let columns := columns.filterMap id |>.map Ident.text
  return spaced (["LATERAL VIEW"] ++ outer ++ [expr, name.text] ++
    if columns.isEmpty then [] else ["AS " ++ listed columns])

def namedWindow (grammar : Grammar) : Parser String := do
  let name ← ident
  expectKeyword "AS"
  expectSign "("
  return s!"{name.text} AS ({← grammar.window grammar.primary})"

/-- The expressions behind the given keywords, if those are next. -/
def keysBehind (grammar : Grammar) (keywords : List String) : Parser (List String) := do
  return (← onlyIf (takeKeywords keywords) (separated grammar.exprText)).getD []

def grouping (grammar : Grammar) : Parser Grouping := do
  unless ← takeKeywords ["GROUP", "BY"] do return .keys []
  if ← takeKeyword "ALL" then return .all
  return .keys (← separated grammar.exprText)

def select (grammar : Grammar) : Parser Select := do
  expectKeyword "SELECT"
  let distinct ← grammar.distinct
  let top ← behind "TOP" grammar.top
  let items ← separated grammar.selectItem
  let into ← behind "INTO" into
  let tables := (← behind "FROM" (separated grammar.joinedTables)).getD []
  let lateralViews ← many (onlyIf (takeKeywords ["LATERAL", "VIEW"]) grammar.lateralView)
  let filter ← behind "WHERE" grammar.exprText
  let grouping ← grammar.grouping
  let clusterBy ← grammar.keysBehind ["CLUSTER", "BY"]
  let distributeBy ← grammar.keysBehind ["DISTRIBUTE", "BY"]
  let sortBy ← grammar.keysBehind ["SORT", "BY"]
  let having ← behind "HAVING" grammar.exprText
  let windowsFirst ← atKeyword "WINDOW"
  let windows := behind "WINDOW" (separated grammar.namedWindow)
  let early ← windows
  let qualify ← behind "QUALIFY" grammar.exprText
  let late ← if qualify.isSome && early.isNone then windows else pure none
  return {
    distinct, top, items, into, tables, lateralViews, filter, grouping, clusterBy, distributeBy
    sortBy, having, qualify, windowsFirst
    windows := (early <|> late).getD [] }

def values (grammar : Grammar) : Parser String := do
  let rows ← separated do
    let marked ← takeKeyword "ROW"
    return (marked, ← inBrackets (separated grammar.exprText))
  let head := if rows.any Prod.fst then "ROW" else ""
  return "VALUES " ++ listed (rows.map fun (_, row) => head ++ bracketed row)

/-- A whole table behind `TABLE`, as it is written out. Three tokens belong to it, also where a name
has fewer. -/
def wholeTable : Parser String := do
  match ← get with
  | .word first _ :: .sign "." :: .word second _ :: rest =>
    set rest
    return s!"TABLE {first.value}.{second.value}"
  | .word _ _ :: .sign "." :: _ => fail
  | .word first _ :: rest =>
    set (rest.drop 2)
    return "TABLE " ++ first.value
  | _ => fail

/-- The main part of a query as far as it is not put together from several. -/
def simpleBody (grammar : Grammar) : Parser QueryBody := do
  if ← atKeyword "SELECT" then return .select (← grammar.select)
  if ← takeSign "(" then
    let query ← grammar.query
    expectSign ")"
    return .written s!"({query.text})"
  if ← takeKeyword "VALUES" then return .written (← grammar.values)
  expectKeyword "TABLE"
  return .written (← wholeTable)

def setQuantifier : Parser (Option String) := do
  if ← takeKeywords ["DISTINCT", "BY", "NAME"] then return some "DISTINCT BY NAME"
  if ← takeKeywords ["BY", "NAME"] then return some "BY NAME"
  if ← takeKeyword "ALL" then
    return some (if ← takeKeywords ["BY", "NAME"] then "ALL BY NAME" else "ALL")
  if ← takeKeyword "DISTINCT" then return some "DISTINCT"
  return none

/-- Bodies read by `operand` that the given operators put together, from left to right. -/
def setChain (operators : List (String × SetOperator)) (operand : Parser QueryBody) :
    Parser QueryBody := do
  let first ← operand
  let others ← many do
    let some word ← takeOneOf (operators.map Prod.fst) | return none
    let head := followed word (← setQuantifier)
    return some ((operators.lookup word).getD .union, head, ← operand)
  return others.foldl (fun left (operator, head, right) =>
    .setOperation operator s!"{left.text} {head} {right.text}") first

/-- The main part of a query. `INTERSECT` binds stronger than the other set operators. -/
def parseBody (grammar : Grammar) : Parser QueryBody :=
  setChain [("UNION", .union), ("EXCEPT", .except), ("MINUS", .minus)]
    (setChain [("INTERSECT", .intersect)] grammar.simpleBody)

def namedQuery (grammar : Grammar) : Parser String := do
  let name ← ident
  let columns ← if ← atKeyword "AS" then pure [] else aliasColumns
  expectKeyword "AS"
  let query ← inBrackets grammar.query
  let source ← behind "FROM" ident
  let head := TableAlias.text ⟨name, columns⟩
  return followed s!"{head} AS ({query.text})" (source.map ("FROM " ++ ·.text))

/-- How many rows a query gives and how many it leaves out, in either order. A list of two numbers gives
the second before the first. -/
def limits (grammar : Grammar) : Parser (Option String × Option String) := do
  let round (found : Option String × Option String) : Parser (Option String × Option String) := do
    let limit ← match found.1 with
      | some limit => pure (some limit)
      | none => do
        let limit ← behind "LIMIT" do
          if ← takeKeyword "ALL" then return none else some <$> grammar.exprText
        pure limit.join
    let offset ← match found.2 with
      | some offset => pure (some offset)
      | none => behind "OFFSET" do
        let count ← grammar.exprText
        return followed ("OFFSET " ++ count) (← takeOneOf ["ROW", "ROWS"])
    match limit, offset with
    | some count, none =>
      if ← takeSign "," then return (some (← grammar.exprText), some ("OFFSET " ++ count))
      return (limit, offset)
    | _, _ => return (limit, offset)
  round (← round (none, none))

def fetch : Parser String := do
  let _ ← expectOneOf ["FIRST", "NEXT"]
  let count ←
    if (← takeOneOf ["ROW", "ROWS"]).isSome then pure []
    else
      let token ← next
      let some count := literal? token | fail
      let percent ← wordIf "PERCENT"
      let _ ← expectOneOf ["ROW", "ROWS"]
      pure (count :: percent)
  let extent ←
    if ← takeKeyword "ONLY" then pure "ONLY"
    else
      expectKeywords ["WITH", "TIES"]
      pure "WITH TIES"
  return spaced (["FETCH FIRST"] ++ count ++ ["ROWS", extent])

def lock : Parser String := do
  let mode ← expectOneOf ["UPDATE", "SHARE"]
  let table ← behind "OF" path
  let wait ←
    if ← takeKeyword "NOWAIT" then pure (some "NOWAIT")
    else if ← takeKeywords ["SKIP", "LOCKED"] then pure (some "SKIP LOCKED")
    else pure none
  return followed (followed ("FOR " ++ mode) (table.map ("OF " ++ ·.text))) wait

/-- A query with all its clauses. -/
def parseQuery (grammar : Grammar) : Parser Query := do
  let named ← behind "WITH" do
    let recursive ← wordIf "RECURSIVE"
    return spaced ("WITH" :: recursive ++ [listed (← separated grammar.namedQuery)])
  if (← atKeyword "INSERT") || (← atKeyword "UPDATE") then
    let change ← grammar.statement
    return ⟨named, .written change.text, none, none, none, none, [], none⟩
  let body ← grammar.parseBody
  let orderBy ← grammar.orderBy?
  let (limit, offset) ← grammar.limits
  let fetch ← behind "FETCH" fetch
  let locks ← many do
    if (← atKeyword "FOR") && (← ahead 1).any (Token.isKeyword · "BROWSE") then return none
    behind "FOR" lock
  let forClause ← onlyIf (takeKeywords ["FOR", "BROWSE"]) (return "FOR BROWSE")
  return ⟨named, body, orderBy, limit, offset, fetch, locks, forClause⟩

end SqliteReader.Sql.Grammar
