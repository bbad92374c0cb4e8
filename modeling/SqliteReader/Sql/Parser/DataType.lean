import SqliteReader.Sql.Parser

/-!
# Parsing data types

A known type is written out in capitals, with its arguments in one spelling. Any other name with any
arguments is a type too, and is written out as it stands.
-/
namespace SqliteReader.Sql.DataType
open Sql.Parser

/-- The types that take no arguments, with their spellings. -/
def plain : List (String × String) := [
  ("BOOLEAN", "BOOLEAN"), ("BOOL", "BOOL"), ("REAL", "REAL"), ("FLOAT4", "FLOAT4"),
  ("FLOAT8", "FLOAT8"), ("FLOAT32", "Float32"), ("FLOAT64", "FLOAT64"), ("INT16", "Int16"),
  ("INT32", "Int32"), ("INT64", "INT64"), ("INT128", "Int128"), ("INT256", "Int256"),
  ("UINT8", "UInt8"), ("UINT16", "UInt16"), ("UINT32", "UInt32"), ("UINT64", "UInt64"),
  ("UINT128", "UInt128"), ("UINT256", "UInt256"), ("TINYBLOB", "TINYBLOB"),
  ("MEDIUMBLOB", "MEDIUMBLOB"), ("LONGBLOB", "LONGBLOB"), ("UUID", "UUID"), ("DATE", "DATE"),
  ("DATE32", "Date32"), ("JSON", "JSON"), ("JSONB", "JSONB"), ("REGCLASS", "REGCLASS"),
  ("TEXT", "TEXT"), ("TINYTEXT", "TINYTEXT"), ("MEDIUMTEXT", "MEDIUMTEXT"),
  ("LONGTEXT", "LONGTEXT"), ("BYTEA", "BYTEA"), ("TRIGGER", "TRIGGER")]

/-- The types that may take a length. -/
def sized : List String :=
  ["FLOAT", "CLOB", "BINARY", "VARBINARY", "BLOB", "BYTES", "DATETIME", "STRING"]

/-- The types of whole numbers, which may take a width and be unsigned. -/
def integers : List String :=
  ["TINYINT", "INT2", "SMALLINT", "MEDIUMINT", "INT", "INT4", "INT8", "INTEGER", "BIGINT"]

def exact : List String := ["NUMERIC", "DECIMAL", "DEC", "BIGNUMERIC", "BIGDECIMAL"]

def times : List String := ["TIME", "TIMESTAMP"]

def precision : Parser String := do
  let n ← onlyIf (atSign "(") (inBrackets natural)
  return (n.map fun n => s!"({n})").getD ""

def precisionAndScale : Parser String := do
  let numbers ← onlyIf (atSign "(") do
    inBrackets do
      let first ← natural
      let second ← onlyIf (takeSign ",") natural
      return (first, second)
  match numbers with
  | none => return ""
  | some (first, none) => return s!"({first})"
  | some (first, some second) => return s!"({first},{second})"

/-- The length of a text type in brackets, as it is written out. -/
def textLength : Parser String := do
  let length ← onlyIf (atSign "(") do
    inBrackets do
      if ← takeKeyword "MAX" then return "MAX"
      let n ← natural
      return followed (toString n) (← takeOneOf ["CHARACTERS", "OCTETS"])
  return (length.map fun length => "(" ++ length ++ ")").getD ""

/-- The rest of a character type that begins with the word `head`. -/
def character (head : String) : Parser DataType := do
  if ← takeKeyword "VARYING" then return known (head ++ " VARYING" ++ (← textLength))
  if ← takeKeywords ["LARGE", "OBJECT"] then
    return known (head ++ " LARGE OBJECT" ++ (← precision))
  return known (head ++ (← textLength))

def timeZone : Parser String := do
  if ← takeKeyword "WITH" then
    expectKeywords ["TIME", "ZONE"]
    return " WITH TIME ZONE"
  if ← takeKeyword "WITHOUT" then
    expectKeywords ["TIME", "ZONE"]
    return " WITHOUT TIME ZONE"
  return ""

def members : Parser String := do
  let items ← inBrackets <| separated do
    let name := inQuotes '\'' (← literalText)
    if ← takeSign "=" then
      match ← next with
      | .number text _ => return name ++ " = " ++ text
      | _ => fail
    return name
  return bracketed items

def texts : Parser String := do
  let items ← inBrackets <| separated do
    match ← next with
    | .text value => return inQuotes '\'' value
    | _ => fail
  return bracketed items

def precisionAndZone : Parser String := do
  let arguments ← inBrackets do
    let precision ← natural
    let zone ← onlyIf (takeSign ",") literalText
    return toString precision :: (zone.map (inQuotes '\'')).toList
  return bracketed arguments

/-- The arguments of a type without a meaning: words, numbers and texts, with or without commas. -/
def freeArguments : Parser (List String) := do
  unless ← takeSign "(" do return []
  let arguments ← many do
    match ← next with
    | .word ident _ => return some (some ident.text)
    | .number text _ => return some (some text)
    | .text value => return some (some value)
    | .sign "," => return some none
    | .sign ")" => return none
    | _ => fail
  return arguments.filterMap id

/-- The type that begins with the keyword `keyword`, which has been taken. Types that hold a type of
their own are read by `inner`; with the type comes whether a second closing angle bracket has been
taken along with its own. -/
def ofKeyword? (inner : Parser (DataType × Bool)) (keyword : String) :
    Parser (Option (DataType × Bool)) := do
  let whole (parser : Parser DataType) : Parser (Option (DataType × Bool)) :=
    return some (← parser, false)
  let spelled (head : String) (parser : Parser String) : Parser (Option (DataType × Bool)) :=
    return some (known (head ++ (← parser)), false)
  match plain.lookup keyword with
  | some spelling => return some (known spelling, false)
  | none =>
  if sized.contains keyword then spelled keyword precision
  else if integers.contains keyword then
    spelled keyword do
      let width ← precision
      return if ← takeKeyword "UNSIGNED" then width ++ " UNSIGNED" else width
  else if exact.contains keyword then spelled keyword precisionAndScale
  else if times.contains keyword then
    spelled keyword do return (← precision) ++ (← timeZone)
  else match keyword with
    | "TIMETZ" | "TIMESTAMPTZ" => spelled keyword precision
    | "DOUBLE" =>
      if ← takeKeyword "PRECISION" then return some (known "DOUBLE PRECISION", false)
      spelled keyword precisionAndScale
    | "VARCHAR" | "NVARCHAR" => spelled keyword textLength
    | "CHARACTER" | "CHAR" => whole (character keyword)
    | "BIT" =>
      if ← takeKeyword "VARYING" then spelled "BIT VARYING" precision else spelled keyword precision
    | "DATETIME64" => spelled "DateTime64" precisionAndZone
    | "FIXEDSTRING" => spelled "FixedString" do return s!"({← inBrackets natural})"
    | "ENUM" | "ENUM8" | "ENUM16" => spelled keyword members
    | "SET" => spelled keyword texts
    | "INTERVAL" => return some (interval, false)
    | "ANY" => if ← takeKeyword "TYPE" then return some (known "ANY TYPE", false) else return none
    | "ARRAY" =>
      expectSign "<"
      let (element, closed) ← inner
      let array := known ("ARRAY<" ++ element.text ++ ">")
      if closed then return some (array, false)
      if ← takeSign ">>" then return some (array, true)
      expectSign ">"
      return some (array, false)
    | _ => return none

/-- A type whose nested types go fewer than `depth` levels down, and whether a second closing angle
bracket has been taken along with its own. -/
def parseTo : (depth : Nat) → Parser (DataType × Bool)
  | 0 => fail
  | depth + 1 => do
    let .word _ keyword ← peek | fail
    let tokens ← get
    if let some keyword := keyword then
      set tokens.tail
      if let some type ← ofKeyword? (parseTo depth) keyword then return type
      set tokens
    return (named (← path) (← freeArguments), false)

def parse : Parser DataType := do
  let (type, extra) ← parseTo (← get).length
  if extra then fail else return type

end SqliteReader.Sql.DataType
