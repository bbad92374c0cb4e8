import SqliteReader.Sql.Parser.DataType

/-!
# Parsing expressions

An expression is a primary expression and, behind it, operators that bind stronger than a given
precedence, each with its operands. Many keywords begin a form of their own; where that form does not
follow, the word is a name. The parser of a form runs behind the keyword that begins the form.
-/
namespace SqliteReader.Sql

namespace Precedence

/-! The greater the number, the stronger an operator binds. -/

def typeCast : Nat := 50
def timeZone : Nat := 41
def product : Nat := 40
def sum : Nat := 30
def exclusiveOr : Nat := 24
def bitAnd : Nat := 23
def bitShift : Nat := 22
def bitOr : Nat := 21
def comparison : Nat := 20
def like : Nat := 19
def is : Nat := 17
def arrow : Nat := 16
def negation : Nat := 15
def conjunction : Nat := 10
def disjunction : Nat := 5

/-- The signs that can stand behind an operand, with what they bind like. -/
def signs : List (Nat × List String) := [
  (typeCast, ["::", "!", "&&", "^@"]),
  (product, ["*", "/", "%", "||"]),
  (sum, ["+", "-"]),
  (bitAnd, ["&"]),
  (bitShift, ["^", "#", ">>", "<<"]),
  (bitOr, ["|"]),
  (comparison, [":=", "=", "==", "<>", "<", "<=", ">", ">=", "<=>", "~", "~*", "!~", "!~*", "~~",
    "~~*", "!~~", "!~~*"]),
  (arrow, ["->", "->>", "#>", "#>>", "@>", "<@", "#-", "@?", "@@"])]

/-- The keywords that can stand behind an operand, with what they bind like. -/
def keywords : List (String × Nat) := [
  ("OR", disjunction), ("AND", conjunction), ("XOR", exclusiveOr), ("IS", is), ("IN", comparison),
  ("BETWEEN", comparison), ("OVERLAPS", comparison), ("OPERATOR", comparison), ("LIKE", like),
  ("ILIKE", like), ("RLIKE", like), ("REGEXP", like), ("MATCH", like), ("SIMILAR", like),
  ("DIV", product)]

/-- The keywords that can stand behind `NOT` behind an operand, with what they bind like. -/
def negated : List (String × Nat) := [
  ("IN", comparison), ("BETWEEN", comparison), ("LIKE", like), ("ILIKE", like), ("RLIKE", like),
  ("REGEXP", like), ("SIMILAR", like)]

/-- What the next operator of `tokens` binds like; zero when there is none. -/
def ofNext (tokens : List Token) : Nat :=
  match tokens with
  | .sign text :: _ => ((signs.find? fun (_, texts) => texts.contains text).map Prod.fst).getD 0
  | .word _ (some "NOT") :: .word _ (some keyword) :: _ => (negated.lookup keyword).getD 0
  | .word _ (some "AT") :: .word _ (some "TIME") :: .word _ (some "ZONE") :: _ => timeZone
  | .word _ (some keyword) :: _ => (keywords.lookup keyword).getD 0
  | _ => 0

end Precedence

inductive Starred
  | star
  | tableStar (table : Path)
  | value (expr : Expr)

namespace Grammar
open Sql.Parser

/-- Keywords that stand for themselves when they are written out. -/
def wordIf (keyword : String) : Parser (List String) := do
  return if ← takeKeyword keyword then [keyword] else []

def starred (grammar : Grammar) : Parser Starred := do
  if ← takeSign "*" then return .star
  let tokens ← get
  if tokens[1]? == some (.sign ".") then
    if let some first ← attempt ident then
      let parts ← many do
        if (← ahead 1) == some (.sign "*") then return none
        onlyIf (takeSign ".") ident
      if ← takeSign "." then
        expectSign "*"
        return .tableStar (first :: parts)
      set tokens
  return .value (← grammar.expr)

def orderItem (grammar : Grammar) : Parser String := do
  let expr ← grammar.exprText
  let direction ← takeOneOf ["ASC", "DESC"]
  let nulls ←
    if ← takeKeywords ["NULLS", "FIRST"] then pure (some "NULLS FIRST")
    else if ← takeKeywords ["NULLS", "LAST"] then pure (some "NULLS LAST")
    else pure none
  return followed (followed expr direction) nulls

/-- The items behind `ORDER BY`, if that is next, as they are written out. -/
def orderBy? (grammar : Grammar) : Parser (Option String) :=
  onlyIf (takeKeywords ["ORDER", "BY"]) do
    return "ORDER BY " ++ listed (← separated grammar.orderItem)

def timeField : Parser String := expectOneOf Keyword.timeFields

/-- An interval, whose keyword has been taken: a value, and perhaps a unit or a range of units. -/
def interval (primary : Parser Expr) : Parser Expr := do
  let value := (← primary).text
  let unit ← takeOneOf Keyword.intervalUnits
  let size (n : String) : List String := if n.isEmpty then [] else [n]
  if unit == some "SECOND" then
    let digits ← onlyIf (atSign "(") (inBrackets (separated natural))
    match digits with
    | none => return .written s!"INTERVAL {value} SECOND"
    | some [n] => return .written s!"INTERVAL {value} SECOND ({n})"
    | some [n, fraction] => return .written s!"INTERVAL {value} SECOND ({n}, {fraction})"
    | some _ => fail
  let leading ← DataType.precision
  let range ← behind "TO" do
    let last ← timeField
    let fraction ← if last = "SECOND" then DataType.precision else pure ""
    return ["TO", last] ++ size fraction
  return .written
    (spaced (["INTERVAL", value] ++ unit.toList ++ size leading ++ range.getD []))

def frameBound (grammar : Grammar) (primary : Parser Expr) : Parser String := do
  if ← takeKeywords ["CURRENT", "ROW"] then return "CURRENT ROW"
  let rows ←
    if ← takeKeyword "UNBOUNDED" then pure "UNBOUNDED"
    else match ← ahead 0 with
      | some (.text _) => Expr.text <$> interval primary
      | _ => grammar.exprText
  return rows ++ " " ++ (← expectOneOf ["PRECEDING", "FOLLOWING"])

/-- What a window ranges over, up to the closing bracket, as it is written out. -/
def window (grammar : Grammar) (primary : Parser Expr) : Parser String := do
  let name ← match ← ahead 0 with
    | some (.word _ none) => some <$> ident
    | _ => pure none
  let partition ← onlyIf (takeKeywords ["PARTITION", "BY"]) do
    return "PARTITION BY " ++ listed (← separated grammar.exprText)
  let order ← grammar.orderBy?
  let frame ←
    if ← takeSign ")" then pure none
    else
      let units ← expectOneOf ["ROWS", "RANGE", "GROUPS"]
      let bound := grammar.frameBound primary
      let range ←
        if ← takeKeyword "BETWEEN" then
          let first ← bound
          expectKeyword "AND"
          pure s!"BETWEEN {first} AND {← bound}"
        else bound
      expectSign ")"
      pure (some (units ++ " " ++ range))
  return spaced ([name.map Ident.text, partition, order, frame].filterMap id)

def argument (grammar : Grammar) : Parser Argument := do
  let name ← attempt do
    let name ← ident
    expectSign "=>"
    return name
  let value ← grammar.starred
  match name, value with
  | none, .star => return .star
  | none, .value expr => return .value expr
  | none, .tableStar table => return .written (table.text ++ ".*")
  | some name, value =>
    let text := match value with
      | .star => "*"
      | .value expr => expr.text
      | .tableStar table => table.text ++ ".*"
    return .written (name.text ++ " => " ++ text)

def nullTreatment : Parser (Option String) := do
  match ← takeOneOf ["RESPECT", "IGNORE"] with
  | some word => expectKeyword "NULLS"; return some (word ++ " NULLS")
  | none => return none

/-- What a function does with null values that it is given as members, as it is written out. -/
def nullMembers : Parser (Option String) := do
  if ← takeKeywords ["ABSENT", "ON", "NULL"] then return some "ABSENT ON NULL"
  if ← takeKeywords ["NULL", "ON", "NULL"] then return some "NULL ON NULL"
  return none

/-- The arguments of a function behind the opening bracket. -/
def arguments (grammar : Grammar) : Parser Arguments := do
  let alone ← nullMembers
  if ← takeSign ")" then return .list none [] alone.toList
  let all ← takeKeyword "ALL"
  let distinct ← takeKeyword "DISTINCT"
  if all && distinct then fail
  let treatment := if all then some .all else if distinct then some .distinct else none
  let items ← separated grammar.argument
  let order ← grammar.orderBy?
  let limit ← behind "LIMIT" do return "LIMIT " ++ (← grammar.exprText)
  let members ← nullMembers
  expectSign ")"
  return .list treatment items ([alone, order, limit, members].filterMap id)

/-- A call of `function`, from the opening bracket on. -/
def callOf (grammar : Grammar) (primary : Parser Expr) (braced : Bool) (function : Path) :
    Parser Expr := do
  expectSign "("
  let arguments ← grammar.arguments
  let withinGroup ← onlyIf (takeKeywords ["WITHIN", "GROUP"]) <| inBrackets do
    expectKeywords ["ORDER", "BY"]
    return "(ORDER BY " ++ listed (← separated grammar.orderItem) ++ ")"
  let isFiltered : Parser Bool := do
    unless ← takeKeyword "FILTER" do return false
    unless ← takeSign "(" do return false
    takeKeyword "WHERE"
  let filter ← onlyIf isFiltered do
    let condition ← grammar.exprText
    expectSign ")"
    return condition
  let nulls ← nullTreatment
  let window ← behind "OVER" do
    if ← takeSign "(" then return "(" ++ (← grammar.window primary) ++ ")"
    return (← ident).text
  return .call function arguments ⟨braced, withinGroup, filter, nulls, window⟩

def caseForm (grammar : Grammar) : Parser Expr := do
  let subject ←
    if ← takeKeyword "WHEN" then pure none
    else
      let subject ← grammar.exprText
      expectKeyword "WHEN"
      pure (some subject)
  let branch : Parser String := do
    let condition ← grammar.exprText
    expectKeyword "THEN"
    return s!"WHEN {condition} THEN {← grammar.exprText}"
  let first ← branch
  let others ← many (behind "WHEN" branch)
  let otherwise ← behind "ELSE" grammar.exprText
  expectKeyword "END"
  return .written (spaced (followed "CASE" subject :: first :: others ++
    (otherwise.map ("ELSE " ++ ·)).toList ++ ["END"]))

def castForm (grammar : Grammar) (head : String) : Parser Expr := inBrackets do
  let value ← grammar.exprText
  expectKeyword "AS"
  return .written s!"{head}({value} AS {(← DataType.parse).text})"

def convertForm (grammar : Grammar) : Parser Expr := inBrackets do
  let value ← grammar.exprText
  if ← takeKeyword "USING" then return .written s!"CONVERT({value} USING {(← path).text})"
  expectSign ","
  let type := (← DataType.parse).text
  let charset ← onlyIf (takeKeywords ["CHARACTER", "SET"]) path
  let type := followed type (charset.map ("CHARACTER SET " ++ ·.text))
  return .written s!"CONVERT({value}, {type})"

def existsForm (grammar : Grammar) (head : String) : Parser Expr := inBrackets do
  return .written s!"{head} ({(← grammar.query).text})"

def extractForm (grammar : Grammar) : Parser Expr := inBrackets do
  let field ← timeField
  expectKeyword "FROM"
  return .written s!"EXTRACT({field} FROM {← grammar.exprText})"

def roundForm (grammar : Grammar) (head : String) : Parser Expr := inBrackets do
  let value ← grammar.exprText
  if ← takeKeyword "TO" then return .written s!"{head}({value} TO {← timeField})"
  if ← takeSign "," then
    match ← next with
    | .number scale _ => return .written s!"{head}({value}, {scale})"
    | _ => fail
  return .written s!"{head}({value})"

/-- A search by the word `head`, which has been taken: with `IN`, or as a plain call. -/
def positionForm (grammar : Grammar) (primary : Parser Expr) (head : Ident) : Parser Expr := do
  let search ← attempt <| inBrackets do
    let value := (← grammar.operand Precedence.comparison).text
    expectKeyword "IN"
    return .written s!"POSITION({value} IN {← grammar.exprText})"
  match search with
  | some expr => return expr
  | none => grammar.callOf primary false [head]

def substringForm (grammar : Grammar) : Parser Expr := inBrackets do
  let value ← grammar.exprText
  let plain ← takeSign ","
  let start ← onlyIf (if plain then pure true else takeKeyword "FROM") grammar.exprText
  let isLimited : Parser Bool := do
    if plain then
      if ← takeSign "," then return true
    takeKeyword "FOR"
  let length ← onlyIf isLimited grammar.exprText
  let part (word : String) (text : Option String) : String :=
    (text.map ((if plain then ", " else word) ++ ·)).getD ""
  return .written ("SUBSTRING(" ++ value ++ part " FROM " start ++ part " FOR " length ++ ")")

def overlayForm (grammar : Grammar) : Parser Expr := inBrackets do
  let value ← grammar.exprText
  expectKeyword "PLACING"
  let part ← grammar.exprText
  expectKeyword "FROM"
  let start ← grammar.exprText
  let length ← behind "FOR" grammar.exprText
  let start := followed start (length.map ("FOR " ++ ·))
  return .written s!"OVERLAY({value} PLACING {part} FROM {start})"

def trimForm (grammar : Grammar) : Parser Expr := inBrackets do
  let side ← takeOneOf ["BOTH", "LEADING", "TRAILING"]
  let first ← grammar.exprText
  let whole ← behind "FROM" grammar.exprText
  let text := followed first (whole.map ("FROM " ++ ·))
  return .written s!"TRIM({spaced (side.toList ++ [text])})"

def notForm (grammar : Grammar) : Parser Expr := do
  if ← takeKeyword "EXISTS" then grammar.existsForm "NOT EXISTS"
  else return .written ("NOT " ++ (← grammar.operand Precedence.negation).text)

/-- The form that begins with the keyword `keyword`, which has been taken as the word `head`; nothing
when no form does. -/
def keywordForm (grammar : Grammar) (primary : Parser Expr) (head : Ident) (keyword : String) :
    Parser (Option Expr) := do
  match keyword with
  | "TRUE" => return some (.written "true")
  | "FALSE" => return some (.written "false")
  | "NULL" => return some (.written "NULL")
  | "CURRENT_TIMESTAMP" | "CURRENT_TIME" | "CURRENT_DATE" | "LOCALTIME" | "LOCALTIMESTAMP" =>
    let arguments ← if ← takeSign "(" then grammar.arguments else pure .absent
    return some (.call [head] arguments .none)
  | "CASE" => some <$> grammar.caseForm
  | "CONVERT" => some <$> grammar.convertForm
  | "CAST" | "TRY_CAST" | "SAFE_CAST" => some <$> grammar.castForm keyword
  | "EXISTS" => some <$> grammar.existsForm "EXISTS"
  | "EXTRACT" => some <$> grammar.extractForm
  | "CEIL" | "FLOOR" => some <$> grammar.roundForm keyword
  | "POSITION" => onlyIf (atSign "(") (grammar.positionForm primary head)
  | "SUBSTRING" => some <$> grammar.substringForm
  | "OVERLAY" => some <$> grammar.overlayForm
  | "TRIM" => some <$> grammar.trimForm
  | "INTERVAL" => some <$> interval primary
  | "ARRAY" =>
    onlyIf (atSign "(") <| inBrackets do
      return .call [head] (.query (← grammar.query).text) .none
  | "NOT" => some <$> grammar.notForm
  | _ => return none

/-- The expression that begins with the name `head`, which has been taken: dotted names, a call, or the
name alone. -/
def nameForm (grammar : Grammar) (primary : Parser Expr) (head : Ident) : Parser Expr := do
  let further ← many (onlyIf (takeSign ".") ident)
  if ← atSign "(" then
    let call ← grammar.callOf primary false (head :: further)
    if !further.isEmpty then return call
    let fields ← many (onlyIf (takeSign ".") ident)
    if fields.isEmpty then return call
    if ← atSign "(" then fail
    return .written (call.text ++ "." ++ Path.text fields)
  if !further.isEmpty then return .path (head :: further)
  if head.value.startsWith "_" then
    match ← ahead 0 with
    | some (.text value) =>
      modify List.tail
      return .written (head.value ++ " " ++ inQuotes '\'' value)
    | some (.hex value) =>
      modify List.tail
      return .written s!"{head.value} X'{value}'"
    | _ => return .name head
  return .name head

/-- The text of a token that is an expression of its own. -/
def literal? : Token → Option String
  | .number text long => some (if long then text ++ "L" else text)
  | .text value => some (inQuotes '\'' value)
  | .national value => some s!"N'{value}'"
  | .hex value => some s!"X'{value}'"
  | .placeholder text => some text
  | _ => none

/-- A type with a text behind it, or an interval. -/
def typedText (primary : Parser Expr) : Parser Expr := do
  match ← DataType.parse with
  | .interval => interval primary
  | .known spelling => return .written (spelling ++ " " ++ inQuotes '\'' (← literalText))
  | .named _ _ => fail

/-- What stands in brackets: a query, an expression, or several; and perhaps a field of it. -/
def bracketForm (grammar : Grammar) : Parser Expr := do
  let inner ← inBrackets do
    if (← atKeyword "SELECT") || (← atKeyword "WITH") then
      return .written s!"({(← grammar.query).text})"
    match ← separated grammar.expr with
    | [expr] => return .nested expr
    | exprs => return .written (bracketed (exprs.map Expr.text))
  if ← takeSign "." then
    match ← next with
    | .word field _ => return .written (inner.text ++ "." ++ field.text)
    | _ => fail
  return inner

def braceForm (grammar : Grammar) (primary : Parser Expr) : Parser Expr := do
  expectSign "\x7b"
  expectKeyword "FN"
  let call ← grammar.callOf primary true (← path)
  expectSign "\x7d"
  return call

def collated (expr : Expr) : Parser Expr := do
  if ← takeKeyword "COLLATE" then
    return .written (expr.text ++ " COLLATE " ++ (← path).text)
  return expr

/-- The expression that begins with the word `head`, which has been taken and is the keyword `keyword`,
if any. A form of the keyword goes first; a word whose form fails is a name, unless it cannot be one,
and then no collation follows it. -/
def wordForm (grammar : Grammar) (primary : Parser Expr) (head : Ident) (keyword : Option String) :
    Parser Expr := fun tokens =>
  let name := grammar.nameForm primary head
  match keyword with
  | none => (name >>= collated) tokens
  | some keyword =>
    match grammar.keywordForm primary head keyword tokens with
    | .ok (some expr, rest) => collated expr rest
    | .ok (none, _) => (name >>= collated) tokens
    | .error fault =>
      if Keyword.notName.contains keyword then .error fault
      else match name tokens with
        | .ok result => .ok result
        | .error _ => .error fault

/-- A primary expression in which fewer than `depth` intervals are nested in one another. -/
def primaryTo (grammar : Grammar) : (depth : Nat) → Parser Expr
  | 0 => fail
  | depth + 1 => do
    let primary := grammar.primaryTo depth
    if let some expr ← attempt (typedText primary) then return expr
    match ← peek with
    | .word head keyword => modify List.tail; grammar.wordForm primary head keyword
    | .sign "(" => grammar.bracketForm >>= collated
    | .sign "\x7b" => grammar.braceForm primary >>= collated
    | .sign sign =>
      modify List.tail
      if sign = "-" || sign = "+" then
        let operand ← grammar.operand Precedence.product
        collated (.written (sign ++ operand.text))
      else if sign = ":" || sign = "@" then
        match ← next with
        | .word name _ => collated (.written (sign ++ name.value))
        | .number text false => collated (.written (sign ++ text))
        | _ => fail
      else fail
    | token =>
      match literal? token with
      | some text => modify List.tail; collated (.written text)
      | none => fail

/-- A primary expression: one without an operator behind it. -/
def primary (grammar : Grammar) : Parser Expr := do
  grammar.primaryTo ((← get).length + 1)

/-- The signs that take a comparison with any or all of several values. -/
def comparisons : List String := [">", "<", ">=", "<=", "=", "<>"]

/-- The right side of the operator `operator`, which has been taken. -/
def binary (grammar : Grammar) (left operator : String) (precedence : Nat) : Parser Expr := do
  match ← takeOneOf ["ANY", "ALL", "SOME"] with
  | none => return .written s!"{left} {operator} {(← grammar.operand precedence).text}"
  | some quantifier =>
    let tokens ← get
    expectSign "("
    let isQuery := (← atKeyword "SELECT") || (← atKeyword "WITH")
    if isQuery then set tokens
    let right := (← grammar.operand precedence).text
    unless isQuery do expectSign ")"
    unless comparisons.contains operator do fail
    let right := if isQuery then right else "(" ++ right ++ ")"
    return .written s!"{left} {operator} {quantifier}{right}"

/-- What stands behind `IS`, which has been taken. -/
def isForm (grammar : Grammar) (left : String) : Parser Expr := do
  let negation ← wordIf "NOT"
  let head := spaced (left :: "IS" :: negation)
  if let some word ← takeOneOf ["NULL", "TRUE", "FALSE", "UNKNOWN"] then
    return .written (head ++ " " ++ word)
  if ← takeKeywords ["DISTINCT", "FROM"] then
    return .written s!"{head} DISTINCT FROM {← grammar.exprText}"
  let form ← takeOneOf ["NFC", "NFD", "NFKC", "NFKD"]
  expectKeyword "NORMALIZED"
  return .written (spaced (head :: form.toList ++ ["NORMALIZED"]))

/-- What stands behind `IN`, which has been taken; `head` ends with that word. -/
def inForm (grammar : Grammar) (head : String) : Parser Expr := do
  if ← takeKeyword "UNNEST" then
    return .written s!"{head} UNNEST({← inBrackets grammar.exprText})"
  inBrackets do
    match ← attempt grammar.body with
    | some body => return .written s!"{head} ({body.text})"
    | none =>
      let items ← if ← atSign ")" then pure [] else separated grammar.exprText
      return .written s!"{head} {bracketed items}"

/-- A pattern behind the words `operator`, which have been taken, and perhaps its escape character. -/
def patternForm (grammar : Grammar) (head operator : String) (canBeAny : Bool) : Parser Expr := do
  let any ← if canBeAny then wordIf "ANY" else pure []
  let pattern := (← grammar.operand Precedence.like).text
  let escape ← behind "ESCAPE" literalText
  let escape := (escape.map fun c => s!"ESCAPE '{c}'").toList
  return .written (spaced ([head, operator] ++ any ++ [pattern] ++ escape))

/-- The operators that may be negated, behind `left`. -/
def negatable (grammar : Grammar) (left : String) : Parser Expr := do
  let head := spaced (left :: (← wordIf "NOT"))
  if let some word ← takeOneOf ["REGEXP", "RLIKE"] then
    return .written s!"{head} {word} {(← grammar.operand Precedence.like).text}"
  if ← takeKeyword "IN" then return ← grammar.inForm (head ++ " IN")
  if ← takeKeyword "BETWEEN" then
    let low := (← grammar.operand Precedence.comparison).text
    expectKeyword "AND"
    let high := (← grammar.operand Precedence.comparison).text
    return .written s!"{head} BETWEEN {low} AND {high}"
  if let some word ← takeOneOf ["LIKE", "ILIKE"] then
    return ← grammar.patternForm head word true
  expectKeywords ["SIMILAR", "TO"]
  grammar.patternForm head "SIMILAR TO" false

/-- The expression that goes on behind `left` with the next operator, which binds like
`precedence`. -/
def extend (grammar : Grammar) (left : Expr) (precedence : Nat) : Parser Expr := do
  let left := left.text
  match ← peek with
  | .sign "::" =>
    modify List.tail
    return .written s!"{left}::{(← DataType.parse).text}"
  | .sign sign =>
    modify List.tail
    if ["<<", ">>", "#", "!", "&&", "^@"].contains sign then fail
    grammar.binary left (if sign = "==" then "=" else sign) precedence
  | .word _ (some keyword) =>
    if keyword = "REGEXP" || keyword = "MATCH" then
      modify List.tail
      return .written s!"{left} {keyword} {← grammar.exprText}"
    if ["AND", "OR", "XOR", "OVERLAPS"].contains keyword then
      modify List.tail
      return ← grammar.binary left keyword precedence
    if ← takeKeyword "IS" then return ← grammar.isForm left
    if ← takeKeywords ["AT", "TIME", "ZONE"] then
      return .written s!"{left} AT TIME ZONE {(← grammar.operand precedence).text}"
    grammar.negatable left
  | _ => fail

/-- The expression that goes on behind `left` with at most `times` operators that bind stronger than
`precedence`. -/
def climb (grammar : Grammar) (precedence : Nat) : (times : Nat) → (left : Expr) → Parser Expr
  | 0, left => return left
  | times + 1, left => do
    let strength := Precedence.ofNext (← get)
    if strength ≤ precedence then return left
    grammar.climb precedence times (← grammar.extend left strength)

/-- An expression of operators that bind stronger than `precedence`. -/
def parseOperand (grammar : Grammar) (precedence : Nat) : Parser Expr := do
  let left ← grammar.primary
  grammar.climb precedence (← get).length left

end Grammar
end SqliteReader.Sql
