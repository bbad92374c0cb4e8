import SqliteReader.Sql.Statement
import SqliteReader.Sql.Token

/-!
# Parsing

A parser takes tokens off the front of a list. This module holds what all of them are built from, and
`Grammar`, through which the parsers of expressions, queries and statements call one another: each such
call is one level deeper, and there is a deepest level.
-/
namespace SqliteReader.Sql

/-- What takes tokens off the front of a list and makes something of them. -/
abbrev Parser := StateT (List Token) (Except Fault)

namespace Parser

/-- No parser takes the tokens at hand. -/
def fail {α : Type} : Parser α := throw .unexpected

/-- The token `n` places ahead, which stays where it is. -/
def ahead (n : Nat) : Parser (Option Token) := return (← get)[n]?

/-- The next token, which stays where it is. -/
def peek : Parser Token := do
  match (← get).head? with
  | some token => return token
  | none => fail

def next : Parser Token := do
  match ← get with
  | token :: rest => set rest; return token
  | [] => fail

def atKeyword (keyword : String) : Parser Bool :=
  return (← get).head?.any (Token.isKeyword · keyword)

def atSign (sign : String) : Parser Bool := return (← get).head? == some (.sign sign)

def takeKeyword (keyword : String) : Parser Bool := do
  if ← atKeyword keyword then modify List.tail; return true
  return false

/-- Takes the given keywords, if all of them follow. -/
def takeKeywords (keywords : List String) : Parser Bool := do
  let tokens ← get
  let here := tokens.take keywords.length
  let all := here.length == keywords.length &&
    (here.zip keywords).all fun (token, keyword) => token.isKeyword keyword
  if all then set (tokens.drop keywords.length)
  return all

/-- Takes one of the given keywords, if one of them is next. -/
def takeOneOf (keywords : List String) : Parser (Option String) := do
  match (← get).head? with
  | some (.word _ (some keyword)) =>
    if keywords.contains keyword then modify List.tail; return some keyword
    return none
  | _ => return none

def takeSign (sign : String) : Parser Bool := do
  if ← atSign sign then modify List.tail; return true
  return false

/-- Fails unless `taken` holds. -/
def expect (taken : Parser Bool) : Parser Unit := do
  unless ← taken do fail

def expectKeyword (keyword : String) : Parser Unit := expect (takeKeyword keyword)

def expectKeywords (keywords : List String) : Parser Unit := expect (takeKeywords keywords)

def expectOneOf (keywords : List String) : Parser String := do
  match ← takeOneOf keywords with
  | some keyword => return keyword
  | none => fail

def expectSign (sign : String) : Parser Unit := expect (takeSign sign)

/-- What `parser` makes of the next tokens, or nothing when it fails, and then no token is taken. That
something is nested too deeply is a failure of the whole. -/
def attempt {α : Type} (parser : Parser α) : Parser (Option α) := fun tokens =>
  match parser tokens with
  | .ok (result, rest) => .ok (some result, rest)
  | .error .tooDeep => .error .tooDeep
  | .error _ => .ok (none, tokens)

/-- The results of `step`, for as long as it gives any and at most `times`. -/
def atMost {α : Type} (step : Parser (Option α)) : (times : Nat) → Parser (List α)
  | 0 => return []
  | times + 1 => do
    match ← step with
    | some result => return result :: (← atMost step times)
    | none => return []

/-- The results of `step`, which takes a token at least whenever it gives one. -/
def many {α : Type} (step : Parser (Option α)) : Parser (List α) := do
  atMost step (← get).length

/-- What `parser` gives if `taken` holds. -/
def onlyIf {α : Type} (taken : Parser Bool) (parser : Parser α) : Parser (Option α) := do
  if ← taken then some <$> parser else return none

/-- What stands behind the given keyword, if that is next. -/
def behind {α : Type} (keyword : String) (parser : Parser α) : Parser (Option α) :=
  onlyIf (takeKeyword keyword) parser

/-- Items with commas between them, one at least. -/
def separated {α : Type} (item : Parser α) : Parser (List α) := do
  let first ← item
  return first :: (← many (onlyIf (takeSign ",") item))

def inBrackets {α : Type} (parser : Parser α) : Parser α := do
  expectSign "("
  let result ← parser
  expectSign ")"
  return result

/-- A name. Single quotes may stand around it too. -/
def ident : Parser Ident := do
  match ← next with
  | .word ident _ => return ident
  | .text value => return ⟨value, some .single⟩
  | _ => fail

/-- Names with points between them. -/
def path : Parser Path := do
  let first ← ident
  return first :: (← many (onlyIf (takeSign ".") ident))

def names : Parser (List Ident) := inBrackets (separated ident)

def optionalNames : Parser (List Ident) := do
  if ← atSign "(" then names else return []

/-- A text: quoted, or a word that is no keyword. -/
def literalText : Parser String := do
  match ← next with
  | .word ident none => return ident.value
  | .text value => return value
  | _ => fail

/-- A whole number of at most 64 bits. -/
def natural : Parser Nat := do
  match ← next with
  | .number text _ =>
    match text.toNat? with
    | some n => if text.all Char.isDigit && n < UInt64.size then return n else fail
    | none => fail
  | _ => fail

end Parser

/-- The parsers that call one another, at one level. -/
structure Grammar where
  statement : Parser Statement
  query : Parser Query
  /-- The main part of a query, which is no level deeper. -/
  body : Parser QueryBody
  /-- An expression of operators that bind stronger than the given precedence. -/
  operand : Nat → Parser Expr

def Grammar.expr (grammar : Grammar) : Parser Expr := grammar.operand 0

def Grammar.exprText (grammar : Grammar) : Parser String := Expr.text <$> grammar.expr

end SqliteReader.Sql
