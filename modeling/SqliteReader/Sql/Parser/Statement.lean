import SqliteReader.Sql.Parser.CreateTable
import SqliteReader.Sql.Token

/-!
# Parsing statements

Each statement begins with a word of its own, and its parser runs behind that word. `Statement.listOfText`
reads a whole text of statements.
-/
namespace SqliteReader.Sql.Grammar
open Sql.Parser

/-- A word for a flag that holds. -/
def wordFor (holds : Bool) (word : String) : List String := if holds then [word] else []

def conflict : Parser (Option String) := do
  let tokens ← get
  if ← takeKeyword "OR" then
    match ← takeOneOf ["REPLACE", "ROLLBACK", "ABORT", "FAIL", "IGNORE"] with
    | some word => return some ("OR " ++ word)
    | none => set tokens; return none
  if ← takeKeyword "REPLACE" then return some "OR REPLACE"
  return none

def assignment (grammar : Grammar) : Parser String := do
  let target ←
    if ← atSign "(" then do pure (bracketed ((← inBrackets (separated path)).map Path.text))
    else do pure (Path.text (← path))
  expectSign "="
  return s!"{target} = {← grammar.exprText}"

def condition (grammar : Grammar) : Parser (List String) := do
  return ((← behind "WHERE" grammar.exprText).map ("WHERE " ++ ·)).toList

/-- What a change gives back, if anything, as it is written out. -/
def returning (grammar : Grammar) : Parser (List String) := do
  let items ← behind "RETURNING" (separated grammar.selectItem)
  return (items.map fun items => "RETURNING " ++ listed (items.map SelectItem.text)).toList

def onConflict (grammar : Grammar) : Parser String := do
  if ← takeKeywords ["DUPLICATE", "KEY", "UPDATE"] then
    return "ON DUPLICATE KEY UPDATE " ++ listed (← separated grammar.assignment)
  expectKeyword "CONFLICT"
  let target ←
    if ← takeKeywords ["ON", "CONSTRAINT"] then do pure (" ON CONSTRAINT " ++ Path.text (← path))
    else if ← atSign "(" then do pure (bracketedNames (← names))
    else pure ""
  expectKeyword "DO"
  if ← takeKeyword "NOTHING" then return s!"ON CONFLICT{target} DO NOTHING"
  expectKeywords ["UPDATE", "SET"]
  let changes := listed (← separated grammar.assignment)
  return spaced (s!"ON CONFLICT{target} DO UPDATE SET {changes}" :: (← grammar.condition))

/-- An insertion, whose first word has been taken if it is `INSERT`. -/
def insertion (grammar : Grammar) : Parser String := do
  let conflict ← conflict
  let overwrite ← wordIf "OVERWRITE"
  let into ← wordIf "INTO"
  let table ← wordIf "TABLE"
  let name ← path
  let head := match conflict with
    | some words => ["INSERT", words, "INTO", name.text]
    | none => ["INSERT"] ++ overwrite ++ into ++ table ++ [name.text]
  let source ←
    if ← takeKeywords ["DEFAULT", "VALUES"] then pure ["DEFAULT VALUES"]
    else do
      let isQuery := (← ahead 1).any (Token.isKeyword · "SELECT")
      let columns ← if isQuery then pure [] else optionalNames
      let columns := if columns.isEmpty then [] else [bracketedNames columns]
      pure (columns ++ [(← grammar.query).text])
  let onConflict ← behind "ON" grammar.onConflict
  return spaced (head ++ source ++ onConflict.toList ++ (← grammar.returning))

def deletion (grammar : Grammar) : Parser String := do
  let targets ←
    if ← takeKeyword "FROM" then pure []
    else do
      let targets ← separated path
      expectKeyword "FROM"
      pure [listed (targets.map Path.text)]
  let tablesText : Parser String := return listed ((← separated grammar.joinedTables).map
    JoinedTables.text)
  let tables ← tablesText
  let source ← behind "USING" tablesText
  let condition ← grammar.condition
  let returning ← grammar.returning
  let order ← grammar.orderBy?
  let limit ← behind "LIMIT" do
    if ← takeKeyword "ALL" then return none else some <$> grammar.exprText
  return spaced (["DELETE"] ++ targets ++ ["FROM", tables] ++
    (source.map ("USING " ++ ·)).toList ++ condition ++ returning ++ order.toList ++
    (limit.join.map ("LIMIT " ++ ·)).toList)

def update (grammar : Grammar) : Parser String := do
  let conflict ← conflict
  let table := (← grammar.joinedTables).text
  let source : Parser (Option String) := behind "FROM" do
    return "FROM " ++ (← grammar.joinedTables).text
  let early ← source
  expectKeyword "SET"
  let changes := "SET " ++ listed (← separated grammar.assignment)
  let late ← if early.isSome then pure none else source
  let condition ← grammar.condition
  return spaced (["UPDATE"] ++ conflict.toList ++ [table] ++ early.toList ++ [changes] ++
    late.toList ++ condition ++ (← grammar.returning))

def createView (grammar : Grammar) (modifiers : List String) : Parser String := do
  let condition := wordFor (← takeKeywords ["IF", "NOT", "EXISTS"]) "IF NOT EXISTS"
  let name ← path
  let columns ← optionalNames
  let columns := if columns.isEmpty then [] else [bracketedNames columns]
  let options ← grammar.tableOptions "WITH"
  expectKeyword "AS"
  let query := (← grammar.query).text
  return spaced (["CREATE"] ++ modifiers ++ ["VIEW"] ++ condition ++ [name.text] ++ columns ++
    options.toList ++ ["AS", query])

def createIndex (grammar : Grammar) (unique : Bool) : Parser String := do
  let concurrently ← wordIf "CONCURRENTLY"
  let isConditional ← takeKeywords ["IF", "NOT", "EXISTS"]
  let named : Parser Path := do
    let name ← path
    expectKeyword "ON"
    return name
  let unnamed ← if isConditional then pure false else takeKeyword "ON"
  let name ← if unnamed then pure none else some <$> named
  let table ← path
  let type ← behind "USING" ident
  let keys := ",".intercalate (← inBrackets (separated grammar.orderItem))
  let included ← behind "INCLUDE" names
  let table := followed table.text (type.map ("USING " ++ ·.text)) ++
    (if type.isSome then " " else "") ++ "(" ++ keys ++ ")"
  return spaced (["CREATE"] ++ wordFor unique "UNIQUE" ++ ["INDEX"] ++ concurrently ++
    wordFor isConditional "IF NOT EXISTS" ++ (name.map Path.text).toList ++ ["ON", table] ++
    (included.map ("INCLUDE " ++ bracketedNames ·)).toList ++ (← grammar.condition))

def createVirtual : Parser String := do
  expectKeyword "TABLE"
  let condition := wordFor (← takeKeywords ["IF", "NOT", "EXISTS"]) "IF NOT EXISTS"
  let name ← path
  expectKeyword "USING"
  let keeper ← ident
  let arguments ← optionalNames
  return spaced (["CREATE VIRTUAL TABLE"] ++ condition ++ [name.text, "USING", keeper.text] ++
    if arguments.isEmpty then [] else [bracketedNames arguments])

def creation (grammar : Grammar) : Parser Statement := do
  let replace ← takeKeywords ["OR", "REPLACE"]
  let localWord ← wordIf "LOCAL"
  let globalWord ← wordIf "GLOBAL"
  let transient ← wordIf "TRANSIENT"
  let temporary := wordFor (← takeOneOf ["TEMP", "TEMPORARY"]).isSome "TEMPORARY"
  let replacing := wordFor replace "OR REPLACE"
  if ← takeKeyword "TABLE" then
    let scope := if globalWord.isEmpty then localWord else globalWord
    let modifiers := replacing ++ scope ++ temporary ++ transient
    return .createTable (← grammar.createTable modifiers)
  let materialized ← wordIf "MATERIALIZED"
  if ← takeKeyword "VIEW" then
    return .written (← grammar.createView (replacing ++ materialized ++ temporary))
  if replace || !materialized.isEmpty then fail
  if ← takeKeyword "INDEX" then return .written (← grammar.createIndex false)
  if ← takeKeywords ["UNIQUE", "INDEX"] then return .written (← grammar.createIndex true)
  if ← takeKeyword "VIRTUAL" then return .written (← createVirtual)
  let kind ← expectOneOf ["SCHEMA", "DATABASE"]
  let condition := wordFor (← takeKeywords ["IF", "NOT", "EXISTS"]) "IF NOT EXISTS"
  return .written (spaced (["CREATE", kind] ++ condition ++ [Path.text (← path)]))

def dropping : Parser String := do
  let kind ← expectOneOf ["TABLE", "VIEW", "INDEX", "ROLE", "SCHEMA", "DATABASE", "SEQUENCE",
    "STAGE", "TYPE"]
  let condition := wordFor (← takeKeywords ["IF", "EXISTS"]) "IF EXISTS"
  let items := listed ((← separated path).map Path.text)
  let cascade ← wordIf "CASCADE"
  let restrict ← wordIf "RESTRICT"
  if !cascade.isEmpty && !restrict.isEmpty then fail
  let purge ← wordIf "PURGE"
  return spaced (["DROP", kind] ++ condition ++ [items] ++ cascade ++ restrict ++ purge)

def columnChange (grammar : Grammar) : Parser String := do
  let _ ← takeKeyword "COLUMN"
  let head := "ALTER COLUMN " ++ (← ident).text
  if ← takeKeywords ["SET", "NOT", "NULL"] then return head ++ " SET NOT NULL"
  if ← takeKeywords ["DROP", "NOT", "NULL"] then return head ++ " DROP NOT NULL"
  if ← takeKeywords ["SET", "DEFAULT"] then return s!"{head} SET DEFAULT {← grammar.exprText}"
  if ← takeKeywords ["DROP", "DEFAULT"] then return head ++ " DROP DEFAULT"
  expectKeywords ["SET", "DATA", "TYPE"]
  return s!"{head} SET DATA TYPE {(← DataType.parse).text}"

def tableChange (grammar : Grammar) : Parser String := do
  if ← takeKeyword "ADD" then
    if let some rule ← grammar.tableConstraint then return "ADD " ++ rule.text
    let word ← wordIf "COLUMN"
    return spaced (["ADD"] ++ word ++ [(← grammar.column).text])
  if ← takeKeyword "RENAME" then
    if ← takeKeyword "TO" then return "RENAME TO " ++ Path.text (← path)
    let _ ← takeKeyword "COLUMN"
    let name := (← ident).text
    expectKeyword "TO"
    return s!"RENAME COLUMN {name} TO {(← ident).text}"
  if ← takeKeyword "DROP" then
    let kind := if ← takeKeyword "CONSTRAINT" then "CONSTRAINT" else "COLUMN"
    let _ ← takeKeyword "COLUMN"
    let condition := wordFor (← takeKeywords ["IF", "EXISTS"]) "IF EXISTS"
    let name := (← ident).text
    let extent ← takeOneOf ["CASCADE", "RESTRICT"]
    return spaced (["DROP", kind] ++ condition ++ [name] ++ extent.toList)
  expectKeyword "ALTER"
  grammar.columnChange

def alteration (grammar : Grammar) : Parser String := do
  expectKeyword "TABLE"
  let condition := wordFor (← takeKeywords ["IF", "EXISTS"]) "IF EXISTS"
  let only ← wordIf "ONLY"
  let name ← path
  let changes ← separated grammar.tableChange
  return spaced (["ALTER TABLE"] ++ condition ++ only ++ [name.text, listed changes])

/-- The value of a setting: a number, a text or a placeholder. -/
def pragmaValue : Parser String := do
  match ← next with
  | .word ⟨value, some .double⟩ _ => return inQuotes '"' value
  | .number text long => return if long then text ++ "L" else text
  | .text value => return inQuotes '\'' value
  | .placeholder text => return text
  | .sign ":" => return ":" ++ (← ident).value
  | .sign "@" => return "@" ++ (← ident).value
  | _ => fail

def pragma : Parser String := do
  let name := Path.text (← path)
  if ← atSign "(" then return s!"PRAGMA {name}({← inBrackets pragmaValue})"
  if ← takeSign "=" then return s!"PRAGMA {name} = {← pragmaValue}"
  return "PRAGMA " ++ name

def beginning : Parser String := do
  let modifier ← takeOneOf ["DEFERRED", "IMMEDIATE", "EXCLUSIVE"]
  let kind ← takeOneOf ["TRANSACTION", "WORK"]
  return spaced (["BEGIN"] ++ modifier.toList ++ kind.toList)

/-- Whether another transaction follows at the end of one. -/
def chained : Parser (List String) := do
  let _ ← takeOneOf ["TRANSACTION", "WORK"]
  unless ← takeKeyword "AND" do return []
  let negated ← takeKeyword "NO"
  expectKeyword "CHAIN"
  return wordFor (!negated) "AND CHAIN"

def rollback : Parser String := do
  let chain ← chained
  let savepoint ← behind "TO" do
    let _ ← takeKeyword "SAVEPOINT"
    return "TO SAVEPOINT " ++ (← ident).text
  return spaced (["ROLLBACK"] ++ chain ++ savepoint.toList)

def showing : Parser String := do
  if let some word ← takeOneOf ["TABLES", "VIEWS", "DATABASES", "SCHEMAS", "FUNCTIONS"] then
    return "SHOW " ++ word
  return "SHOW " ++ Path.text [← ident]

def setting (grammar : Grammar) : Parser String := do
  let name := Path.text (← path)
  unless ← takeSign "=" do expectKeyword "TO"
  return s!"SET {name} = {listed (← separated grammar.exprText)}"

def calling (grammar : Grammar) : Parser String := do
  let name ← path
  if ← atSign "(" then return "CALL " ++ (← grammar.callOf grammar.primary false name).text
  return "CALL " ++ name.text

def explanation (grammar : Grammar) (head : String) : Parser Statement := do
  let modifiers ←
    if ← takeKeywords ["QUERY", "PLAN"] then pure ["QUERY PLAN"]
    else if ← takeKeyword "ESTIMATE" then pure ["ESTIMATE"]
    else do
      let analyze ← wordIf "ANALYZE"
      pure (analyze ++ (← wordIf "VERBOSE"))
  match ← attempt grammar.statement with
  | some (.explain _) => fail
  | some statement => return .explain (spaced (head :: modifiers ++ [statement.text]))
  | none => return .explain (spaced [head, Path.text (← path)])

def attachment (grammar : Grammar) : Parser String := do
  let word ← wordIf "DATABASE"
  let file ← grammar.exprText
  expectKeyword "AS"
  return spaced (["ATTACH"] ++ word ++ [file, "AS", (← ident).text])

def parseStatement (grammar : Grammar) : Parser Statement := do
  let words := ["SELECT", "WITH", "VALUES", "FROM"]
  match ← peek with
  | .sign "(" => return .query (← grammar.query)
  | .word _ (some keyword) =>
    if words.contains keyword then return .query (← grammar.query)
    if keyword = "REPLACE" then return .written (← grammar.insertion)
    modify List.tail
    let text ← match keyword with
      | "EXPLAIN" | "DESCRIBE" | "DESC" => return ← grammar.explanation keyword
      | "CREATE" => return ← grammar.creation
      | "INSERT" => grammar.insertion
      | "DELETE" => grammar.deletion
      | "UPDATE" => grammar.update
      | "DROP" => dropping
      | "ALTER" => grammar.alteration
      | "PRAGMA" => pragma
      | "BEGIN" => beginning
      | "START" => expectKeyword "TRANSACTION"; pure "START TRANSACTION"
      | "COMMIT" | "END" => do pure (spaced (keyword :: (← chained)))
      | "ROLLBACK" => rollback
      | "SAVEPOINT" => do pure ("SAVEPOINT " ++ (← ident).text)
      | "RELEASE" =>
        let _ ← takeKeyword "SAVEPOINT"
        pure ("RELEASE SAVEPOINT " ++ (← ident).text)
      | "ATTACH" => grammar.attachment
      | "ANALYZE" => do
        let word ← wordIf "TABLE"
        pure (spaced (["ANALYZE"] ++ word ++ [Path.text (← path)]))
      | "TRUNCATE" => do
        let word ← wordIf "TABLE"
        pure (spaced (["TRUNCATE"] ++ word ++ [listed ((← separated path).map Path.text)]))
      | "SHOW" => showing
      | "SET" => grammar.setting
      | "CALL" => grammar.calling
      | "USE" => do pure ("USE " ++ Path.text (← path))
      | _ => fail
    return .written text
  | _ => fail

/-- The parsers with `depth` levels below them. -/
def atDepth : (depth : Nat) → Grammar
  | 0 =>
    let deepest : Grammar :=
      ⟨throw .tooDeep, throw .tooDeep, throw .tooDeep, fun _ => throw .tooDeep⟩
    { deepest with body := deepest.parseBody }
  | depth + 1 =>
    let inner := atDepth depth
    let here : Grammar :=
      ⟨inner.parseStatement, inner.parseQuery, throw .tooDeep, inner.parseOperand⟩
    { here with body := here.parseBody }

def maxDepth : Nat := 50

/-- Statements with semicolons between them. The word `END` behind a statement ends them all. -/
def statementsTo (grammar : Grammar) : (times : Nat) → Parser (List Statement)
  | 0 => return []
  | times + 1 => do
    let _ ← many (onlyIf (takeSign ";") (pure ()))
    if (← get).isEmpty then return []
    let statement ← grammar.statement
    if (← get).isEmpty || (← atKeyword "END") then return [statement]
    unless ← atSign ";" do fail
    return statement :: (← statementsTo grammar times)

end SqliteReader.Sql.Grammar

namespace SqliteReader.Sql

/-- The statements of a text. -/
def Statement.listOfText (text : String) : Except Fault (List Statement) := do
  let tokens ← Token.ofText text
  let statements := (Grammar.atDepth Grammar.maxDepth).statementsTo (tokens.length + 1)
  return (← statements tokens).1

/-- The dialect of SQLite. -/
instance sqlite : Dialect where
  statements := Statement.listOfText

end SqliteReader.Sql
