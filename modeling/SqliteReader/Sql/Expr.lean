import SqliteReader.Sql.Name

/-!
# Expressions

An expression keeps its parts as far as a request can be made of it: names, brackets and calls. Any
other expression is kept as it is written out, with canonical spacing and capitals.
-/
namespace SqliteReader.Sql

/-- Which arguments a function is applied to. -/
inductive Treatment
  | all
  | distinct
  deriving Repr, DecidableEq

def Treatment.text : Treatment → String
  | all => "ALL"
  | distinct => "DISTINCT"

/-- What stands around a call, each as it is written out. -/
structure CallContext where
  /-- Whether the call stands in braces. -/
  braced : Bool
  withinGroup : Option String
  filter : Option String
  nulls : Option String
  window : Option String
  deriving Repr, DecidableEq

/-- A call with nothing around it. -/
def CallContext.none : CallContext := ⟨false, .none, .none, .none, .none⟩

mutual

inductive Expr
  | name (ident : Ident)
  /-- Two or more names joined by points. -/
  | path (parts : Path)
  /-- An expression in brackets. -/
  | nested (inner : Expr)
  | call (function : Path) (arguments : Arguments) (context : CallContext)
  /-- Any other expression, as it is written out. -/
  | written (text : String)
  deriving Repr

/-- What a function is applied to. -/
inductive Arguments
  /-- Nothing, not even brackets. -/
  | absent
  | query (text : String)
  /-- A list, with the clauses at its end as they are written out. -/
  | list (treatment : Option Treatment) (items : List Argument) (clauses : List String)
  deriving Repr

inductive Argument
  | star
  | value (expr : Expr)
  /-- A named argument, or the star of one table, as it is written out. -/
  | written (text : String)
  deriving Repr

end

mutual

/-- The expression as it is written out. -/
def Expr.text : Expr → String
  | .name ident => ident.text
  | .path parts => parts.text
  | .nested inner => "(" ++ inner.text ++ ")"
  | .call function arguments context =>
    let call := function.text ++ arguments.text
    let call := followed call (context.withinGroup.map ("WITHIN GROUP " ++ ·))
    let call := followed call (context.filter.map fun condition => s!"FILTER (WHERE {condition})")
    let call := followed call context.nulls
    let call := followed call (context.window.map ("OVER " ++ ·))
    if context.braced then "\x7bfn " ++ call ++ "\x7d" else call
  | .written text => text

def Arguments.text : Arguments → String
  | .absent => ""
  | .query text => "(" ++ text ++ ")"
  | .list treatment items clauses =>
    let items := listed (argumentTexts items)
    let groups := [treatment.map Treatment.text, if items.isEmpty then none else some items,
      if clauses.isEmpty then none else some (spaced clauses)]
    "(" ++ spaced (groups.filterMap id) ++ ")"

def Argument.text : Argument → String
  | .star => "*"
  | .value expr => expr.text
  | .written text => text

def argumentTexts : List Argument → List String
  | [] => []
  | argument :: rest => argument.text :: argumentTexts rest

end

instance : Inhabited Expr := ⟨.written ""⟩

end SqliteReader.Sql
