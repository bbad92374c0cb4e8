import SqliteReader.Sql.Parser.Query

/-!
# Parsing statements that create a table

A column may have no type, and then its options follow its name. What the engine does not look at is
read all the same, so that a statement is accepted or refused as a whole.
-/
namespace SqliteReader.Sql.Grammar
open Sql.Parser

/-- When a constraint is checked, as it is written out. -/
def checkTime : Parser (Option String) := do
  let words ← atMost round 3
  let part (kind : Fin 3) : Option String := (words.find? fun word => word.1 == kind).map Prod.snd
  let parts := [part 0, part 1, part 2].filterMap id
  return if parts.isEmpty then none else some (spaced parts)
where
  /-- The next part, with its place among the three. -/
  round : Parser (Option (Fin 3 × String)) := do
    if ← takeKeywords ["NOT", "DEFERRABLE"] then return some (0, "NOT DEFERRABLE")
    if ← takeKeyword "DEFERRABLE" then return some (0, "DEFERRABLE")
    if ← takeKeyword "INITIALLY" then
      return some (1, "INITIALLY " ++ (← expectOneOf ["DEFERRED", "IMMEDIATE"]))
    if ← takeKeyword "ENFORCED" then return some (2, "ENFORCED")
    if ← takeKeywords ["NOT", "ENFORCED"] then return some (2, "NOT ENFORCED")
    return none

def referenceAction : Parser String := do
  if ← takeKeywords ["SET", "NULL"] then return "SET NULL"
  if ← takeKeywords ["SET", "DEFAULT"] then return "SET DEFAULT"
  if ← takeKeywords ["NO", "ACTION"] then return "NO ACTION"
  expectOneOf ["RESTRICT", "CASCADE"]

/-- The table that is referred to and what follows, behind `REFERENCES`, as it is written out, with
`separator` between the table and its columns. -/
def reference (separator : String) : Parser String := do
  let table ← path
  let columns ← optionalNames
  let action (event : String) : Parser (Option String) :=
    onlyIf (takeKeywords ["ON", event]) do return s!"ON {event} {← referenceAction}"
  let early ← action "UPDATE"
  let delete ← action "DELETE"
  let update ← if early.isSome then pure early else action "UPDATE"
  let columns := if columns.isEmpty then "" else separator ++ bracketedNames columns
  let head := followed (followed s!"REFERENCES {table.text}{columns}" delete) update
  return followed head (← checkTime)

def check (grammar : Grammar) : Parser String := do
  return s!"CHECK ({← inBrackets grammar.exprText})"

/-- An expression that a column is computed by, behind `head`, as it is written out. -/
def computed (grammar : Grammar) (head : String) : Parser String := do
  let expr ← inBrackets grammar.exprText
  return followed s!"{head} ({expr})" (← takeOneOf ["STORED", "VIRTUAL"])

/-- A rule behind `GENERATED`, if one follows. -/
def generated (grammar : Grammar) : Parser (Option ColumnRule) := do
  let identity ←
    if ← takeKeywords ["ALWAYS", "AS", "IDENTITY"] then pure (some "ALWAYS")
    else if ← takeKeywords ["BY", "DEFAULT", "AS", "IDENTITY"] then pure (some "BY DEFAULT")
    else pure none
  if let some kind := identity then return some (.written s!"GENERATED {kind} AS IDENTITY")
  unless ← takeKeywords ["ALWAYS", "AS"] do return none
  onlyIf (atSign "(") do return .written (← grammar.computed "GENERATED ALWAYS AS")

def columnRule (grammar : Grammar) : Parser (Option ColumnRule) := do
  let written (text : String) : Parser (Option ColumnRule) := return some (.written text)
  if ← takeKeywords ["CHARACTER", "SET"] then
    return ← written ("CHARACTER SET " ++ Path.text (← path))
  if ← takeKeywords ["NOT", "NULL"] then return ← written "NOT NULL"
  if ← takeKeyword "COMMENT" then
    let .text comment ← next | fail
    return ← written ("COMMENT " ++ inQuotes '\'' comment)
  if ← takeKeyword "NULL" then return ← written "NULL"
  if ← takeKeyword "DEFAULT" then return ← written ("DEFAULT " ++ (← grammar.exprText))
  if ← takeKeywords ["PRIMARY", "KEY"] then return some (.primaryKey (← checkTime))
  if ← takeKeyword "UNIQUE" then return ← written (followed "UNIQUE" (← checkTime))
  if ← takeKeyword "REFERENCES" then return ← written (← reference " ")
  if ← takeKeyword "CHECK" then return ← written (← grammar.check)
  let _ ← takeKeyword "AUTO_INCREMENT"
  if let some word ← takeOneOf ["AUTOINCREMENT", "ASC", "DESC"] then return some (.keyword word)
  let _ ← takeKeywords ["ON", "UPDATE"]
  if ← takeKeyword "GENERATED" then return ← grammar.generated
  if ← takeKeyword "AS" then return ← written (← grammar.computed "AS")
  let _ ← takeKeyword "IDENTITY"
  if ← takeKeywords ["ON", "CONFLICT"] then
    let action ← expectOneOf ["ROLLBACK", "ABORT", "FAIL", "IGNORE", "REPLACE"]
    return ← written ("ON CONFLICT " ++ action)
  return none

def columnOption (grammar : Grammar) : Parser (Option ColumnOption) := do
  let name ← behind "CONSTRAINT" ident
  match ← grammar.columnRule with
  | some rule => return some ⟨name, rule⟩
  | none => if name.isSome then fail else return none

/-- The keywords that show that a column has no type. -/
def optionKeywords : List String := [
  "CONSTRAINT", "PRIMARY", "NOT", "UNIQUE", "CHECK", "DEFAULT", "COLLATE", "REFERENCES",
  "GENERATED", "AS"]

def columnType : Parser (Option DataType) := do
  match ← ahead 0 with
  | some (.word _ keyword) =>
    if keyword.any optionKeywords.contains then return none else some <$> DataType.parse
  | _ => return none

def column (grammar : Grammar) : Parser ColumnDefinition := do
  let name ← ident
  let type ← columnType
  let collation ← behind "COLLATE" path
  let options ← many grammar.columnOption
  return ⟨name, type, collation.map Path.text, options⟩

def indexType : Parser String := do return "USING " ++ (← expectOneOf ["BTREE", "HASH"])

/-- The columns of a key, with what may stand before and behind them: the words before them, the
columns, the words behind them. -/
def keyColumns (head : List String) : Parser (String × List Ident × List String) := do
  let name ← attempt ident
  let type ← behind "USING" indexType
  let columns ← names
  let options ← many do
    if let some type ← behind "USING" indexType then return some type
    behind "COMMENT" do
      let .text comment ← next | fail
      return s!"COMMENT '{comment}'"
  let checked ← checkTime
  return (spaced (head ++ (name.map Ident.text).toList ++ type.toList), columns,
    options ++ checked.toList)

def tableConstraint (grammar : Grammar) : Parser (Option TableConstraint) := do
  let name ← behind "CONSTRAINT" ident
  let head := constraintName name
  match ← takeOneOf ["UNIQUE", "PRIMARY", "FOREIGN", "CHECK"] with
  | some "UNIQUE" =>
    if (← takeOneOf ["KEY", "INDEX"]).isSome then fail
    let nulls ←
      if ← takeKeywords ["NULLS", "DISTINCT"] then pure ["NULLS DISTINCT"]
      else if ← takeKeywords ["NULLS", "NOT", "DISTINCT"] then pure ["NULLS NOT DISTINCT"]
      else pure []
    let (head, columns, tail) ← keyColumns (head ++ ["UNIQUE"] ++ nulls)
    return some (.written (spaced (head :: bracketedNames columns :: tail)))
  | some "PRIMARY" =>
    expectKeyword "KEY"
    let (head, columns, tail) ← keyColumns (head ++ ["PRIMARY KEY"])
    return some (.primaryKey head columns tail)
  | some "FOREIGN" =>
    expectKeyword "KEY"
    let columns ← names
    expectKeyword "REFERENCES"
    let key := "FOREIGN KEY " ++ bracketedNames columns
    return some (.written (spaced (head ++ [key, ← reference ""])))
  | some _ => return some (.written (spaced (head ++ [← grammar.check])))
  | none => if name.isSome then fail else return none

/-- The columns and constraints of a table in brackets, or none. -/
def members (grammar : Grammar) : Parser (List ColumnDefinition × List TableConstraint) := do
  unless ← takeSign "(" do return ([], [])
  if ← takeSign ")" then return ([], [])
  let member : Parser (ColumnDefinition ⊕ TableConstraint) := do
    if let some rule ← grammar.tableConstraint then return .inr rule
    let .word _ _ ← peek | fail
    return .inl (← grammar.column)
  let members ← separated member
  expectSign ")"
  return (members.filterMap Sum.getLeft?, members.filterMap Sum.getRight?)

def tableOption (grammar : Grammar) : Parser String := do
  let name ← ident
  expectSign "="
  return s!"{name.text} = {← grammar.exprText}"

/-- Options of a table in brackets behind the given keyword, if that is next, as they are written
out. -/
def tableOptions (grammar : Grammar) (keyword : String) : Parser (Option String) :=
  behind keyword do
    return s!"{keyword} {bracketed (← inBrackets (separated grammar.tableOption))}"

/-- A word behind an equals sign, which is put in front of it. -/
def assignedWord (head : String) : Parser String := do
  expectSign "="
  let .word name _ ← next | fail
  return head ++ "=" ++ name.value

def engine : Parser String := do
  let word ← assignedWord "ENGINE"
  let parameters ← optionalNames
  return if parameters.isEmpty then word else word ++ bracketedNames parameters

/-- The first number that is given out, behind `AUTO_INCREMENT`, as it is written out. -/
def firstNumber : Parser String := do
  let _ ← takeSign "="
  let number ← natural
  if number < UInt32.size then return s!"AUTO_INCREMENT {number}" else fail

def tableOrder (grammar : Grammar) : Parser String := do
  if ← takeSign "(" then
    if ← takeSign ")" then return "ORDER BY ()"
    let keys ← separated grammar.exprText
    expectSign ")"
    return "ORDER BY " ++ bracketed keys
  return "ORDER BY " ++ (← grammar.exprText)

def commitAction : Parser String := do
  if ← takeKeyword "DROP" then return "ON COMMIT DROP"
  let action ← expectOneOf ["DELETE", "PRESERVE"]
  expectKeyword "ROWS"
  return s!"ON COMMIT {action} ROWS"

def tableComment : Parser String := do
  let sign ← takeSign "="
  let .text comment ← next | fail
  return (if sign then "COMMENT = '" else "COMMENT '") ++ comment ++ "'"

/-- A statement that creates a table, whose words up to `TABLE` have been taken. -/
def createTable (grammar : Grammar) (modifiers : List String) : Parser CreateTable := do
  let ifNotExists ← takeKeywords ["IF", "NOT", "EXISTS"]
  let name ← path
  let like ← onlyIf (return (← takeOneOf ["LIKE", "ILIKE"]).isSome) (attempt path)
  let clone ← behind "CLONE" (attempt path)
  let (columns, constraints) ← grammar.members
  let withoutRowid ← takeKeywords ["WITHOUT", "ROWID"]
  let options ← grammar.tableOptions "WITH"
  let properties ← grammar.tableOptions "TBLPROPERTIES"
  let engine ← behind "ENGINE" engine
  let firstNumber ← behind "AUTO_INCREMENT" firstNumber
  let order ← onlyIf (takeKeywords ["ORDER", "BY"]) grammar.tableOrder
  let charset ← onlyIf (takeKeywords ["DEFAULT", "CHARSET"]) (assignedWord "DEFAULT CHARSET")
  let collation ← behind "COLLATE" (assignedWord "COLLATE")
  let commit ← onlyIf (takeKeywords ["ON", "COMMIT"]) commitAction
  let strict ← takeKeyword "STRICT"
  let comment ← behind "COMMENT" tableComment
  let query ← behind "AS" grammar.query
  let named (word : String) (path : Option (Option Path)) : Option String :=
    path.join.map fun path => word ++ " " ++ path.text
  let wordFor (holds : Bool) (word : String) := if holds then some word else none
  let clauses := [wordFor withoutRowid "WITHOUT ROWID", named "LIKE" like, named "CLONE" clone,
    properties, options, engine, comment, firstNumber, order, charset, collation, commit,
    wordFor strict "STRICT", query.map ("AS " ++ ·.text)]
  return {
    modifiers, ifNotExists, name, columns, constraints
    clauses := clauses.filterMap id
    hasSource := like.join.isSome || clone.join.isSome || query.isSome }

end SqliteReader.Sql.Grammar
