import SqliteReader.Proofs.AcceptedQueries
import SqliteReader.Proofs.LetterCase

/-!
# Requests follow their queries

What a request has is told here by the query alone: its tables are those of the `FROM` clause from left to right, and its
projection is a star, an aggregate or columns just as the select list is a lone star, a lone call or anything else
(`request_follows_query`). Brackets around a column and aliases of columns are no part of what a query asks for, so the
request stays the same when some are put in (`Projection.KeptBy.respelled`).
-/
namespace SqliteReader
open Sql

/-! ## Functions by their names -/

/-- The words that a function goes by. -/
def AggregateFunction.words : AggregateFunction → List String
  | count => ["COUNT"]
  | sum => ["SUM", "TOTAL"]
  | avg => ["AVG"]
  | min => ["MIN"]
  | max => ["MAX"]

theorem AggregateFunction.upper_of_mem_words {function : AggregateFunction} {word : String}
    (inside : word ∈ function.words) : Text.upper word = word := by
  revert word
  cases function <;> decide

theorem AggregateFunction.ofName?_eq_some_iff {name : String} {function : AggregateFunction} :
    ofName? name = some function ↔ ∃ word ∈ function.words, Text.SameLetters name word := by
  constructor
  · intro named
    have inside : Text.upper name ∈ function.words := by
      unfold ofName? at named
      split at named <;> cases named <;> simp [words, *]
    exact ⟨_, inside, Text.upper_eq_iff.1 (upper_of_mem_words inside).symm⟩
  · rintro ⟨word, inside, same⟩
    have capitals : Text.upper name = word := (Text.upper_eq_iff.2 same).trans (upper_of_mem_words inside)
    rw [ofName?, capitals]
    clear same capitals
    revert word
    cases function <;> decide

/-- Only a lone name without quotes is written in letters alone. -/
theorem Sql.Path.eq_single_of_letters {path : Path} {word : String} (same : Text.SameLetters path.text word)
    (letters : ∀ c ∈ word.toList, c.isAlpha = true) (notEmpty : word ≠ "") : ∃ name, path = [⟨name, none⟩] := by
  have noMark {c : Char} (mark : c.isAlpha = false) (inside : c ∈ path.text.toList) : False := by
    have letter := letters c (same.mem inside mark)
    rw [mark] at letter
    cases letter
  match path with
  | [] =>
    have nothing : word.toList = [] := List.forall₂_nil_left_iff.1 same
    exact absurd (String.toList_eq_nil_iff.1 nothing) notEmpty
  | [⟨name, none⟩] => exact ⟨name, rfl⟩
  | [⟨name, some style⟩] =>
    exfalso
    cases style with
    | double => exact noMark (c := '"') (by decide) (by simp [Path.text, Ident.text, inQuotes])
    | back => exact noMark (c := Char.ofNat 0x60) (by decide) (by simp [Path.text, Ident.text, inQuotes])
    | single => exact noMark (c := '\'') (by decide) (by simp [Path.text, Ident.text, inQuotes])
    | bracket => exact noMark (c := '[') (by decide) (by simp [Path.text, Ident.text])
  | first :: second :: rest =>
    exact (noMark (c := '.') (by decide) (by simp [Path.text])).elim

/-- An aggregate goes by one of the words of its function, which stands there without quotes. -/
theorem AggregateFunction.path_of_ofName? {path : Path} {function : AggregateFunction}
    (named : ofName? path.text = some function) :
    ∃ name, path = [⟨name, none⟩] ∧ ∃ word ∈ function.words, Text.SameLetters name word := by
  obtain ⟨word, inside, same⟩ := ofName?_eq_some_iff.1 named
  have letters : word.toList.all Char.isAlpha = true ∧ word ≠ "" := by
    clear named same
    revert word
    cases function <;> decide
  obtain ⟨name, rfl⟩ := Path.eq_single_of_letters same (List.all_eq_true.1 letters.1) letters.2
  refine ⟨name, rfl, word, inside, ?_⟩
  simpa [Path.text, Ident.text] using same

/-! ## Tables from left to right -/

/-- The tables of the `FROM` clause from left to right, each with those joined to it behind it. -/
def Sql.Select.factors (select : Select) : List TableFactor :=
  select.tables.flatMap fun joined => joined.relation :: joined.joins.map Join.relation

theorem Sql.JoinedTables.Names.factors {joined : JoinedTables} {tables : List TableRef} (named : joined.Names tables) :
    List.Forall₂ TableFactor.Names (joined.relation :: joined.joins.map Join.relation) tables := by
  obtain ⟨head, tail⟩ := named
  refine .cons head ?_
  rw [List.forall₂_map_left_iff]
  exact tail.imp fun _ _ => Join.Names.relation

theorem Sql.Select.Asks.factors {select : Select} {request : Request} (asks : select.Asks request) :
    List.Forall₂ TableFactor.Names select.factors request.tables := by
  obtain ⟨lists, named, same⟩ := asks.tables
  rw [same, Select.factors, List.flatMap]
  refine List.rel_flatten ?_
  rw [List.forall₂_map_left_iff]
  exact named.imp fun _ _ => JoinedTables.Names.factors

/-! ## Projections by their select lists -/

theorem Projection.KeptBy.eq_wildcard_iff {items : List SelectItem} {projection : Projection}
    (kept : projection.KeptBy items) : projection = .wildcard ↔ items = [.star] := by
  constructor
  · rintro rfl
    exact kept
  · rintro rfl
    have accepted := Projection.ofItems_eq_ok_iff.2 kept
    cases accepted
    rfl

theorem Projection.KeptBy.is_aggregate_iff {items : List SelectItem} {projection : Projection}
    (kept : projection.KeptBy items) : (∃ aggregate, projection = .aggregate aggregate) ↔
      ∃ path arguments context asName, items = [.value (.call path arguments context) asName] := by
  constructor
  · rintro ⟨aggregate, rfl⟩
    obtain ⟨item, rfl, asName, called⟩ := kept
    cases called
    exact ⟨_, _, _, _, rfl⟩
  · rintro ⟨path, arguments, context, asName, rfl⟩
    cases projection with
    | wildcard => cases kept
    | columns named =>
      -- A call names no column.
      obtain _ | ⟨⟨_, column⟩, _⟩ := kept
      cases column
    | aggregate called => exact ⟨called, rfl⟩

/-- An aggregate goes by a word of its function, and the argument of the call is its own. -/
theorem Projection.KeptBy.call_of_aggregate {items : List SelectItem} {function : AggregateFunction}
    {column : Option ColumnRef} (kept : (Projection.aggregate ⟨function, column⟩).KeptBy items) :
    ∃ name argument clauses context asName,
      items = [.value (.call [⟨name, none⟩] (.list none [argument] clauses) context) asName] ∧
        (∃ word ∈ function.words, Text.SameLetters name word) ∧ argument.Names column := by
  obtain ⟨item, rfl, asName, called⟩ := kept
  cases called with
  | call clauses named argued =>
    obtain ⟨name, rfl, word⟩ := AggregateFunction.path_of_ofName? named
    exact ⟨name, _, clauses, _, asName, rfl, word, argued⟩

/-! ## Brackets and aliases -/

/-- The expression in further brackets, so many times. -/
def Sql.Expr.inBrackets (expr : Expr) : Nat → Expr
  | 0 => expr
  | count + 1 => .nested (expr.inBrackets count)

/-- The same argument, perhaps in further brackets. -/
inductive Sql.Argument.Respelled : Argument → Argument → Prop
  | same (argument : Argument) : Respelled argument argument
  | value (expr : Expr) (count : Nat) : Respelled (.value expr) (.value (expr.inBrackets count))

/-- The same item under any alias, its column or the arguments of its call perhaps in further brackets. -/
inductive Sql.SelectItem.Respelled : SelectItem → SelectItem → Prop
  | same (item : SelectItem) : Respelled item item
  | column {expr : Expr} {column : ColumnRef} (named : expr.NamesColumn column) (count : Nat)
      (asName asName' : Option Ident) : Respelled (.value expr asName) (.value (expr.inBrackets count) asName')
  | call (function : Path) (treatment : Option Treatment) {arguments arguments' : List Argument} (clauses : List String)
      (context : CallContext) (each : List.Forall₂ Argument.Respelled arguments arguments') (asName asName' : Option Ident) :
      Respelled (.value (.call function (.list treatment arguments clauses) context) asName)
        (.value (.call function (.list treatment arguments' clauses) context) asName')

theorem Sql.Expr.NamesColumn.inBrackets {expr : Expr} {column : ColumnRef} (named : expr.NamesColumn column)
    (count : Nat) : (expr.inBrackets count).NamesColumn column := by
  induction count with
  | zero => exact named
  | succ count ih => exact .nested ih

theorem Sql.Argument.Names.respelled {argument argument' : Argument} {column : Option ColumnRef}
    (named : argument.Names column) (respelled : argument.Respelled argument') : argument'.Names column := by
  cases respelled with
  | same => exact named
  | value expr count =>
    obtain _ | named := named
    exact .value (named.inBrackets count)

theorem Sql.SelectItem.NamesColumn.respelled {item item' : SelectItem} {column : ColumnRef}
    (named : item.NamesColumn column) (respelled : item.Respelled item') : item'.NamesColumn column := by
  cases respelled with
  | same => exact named
  | column _ count _ asName' =>
    obtain ⟨_, named⟩ := named
    exact .value asName' (named.inBrackets count)
  | call =>
    obtain ⟨_, named⟩ := named
    cases named

theorem Sql.SelectItem.CallsAggregate.respelled {item item' : SelectItem} {aggregate : Aggregate}
    (called : item.CallsAggregate aggregate) (respelled : item.Respelled item') : item'.CallsAggregate aggregate := by
  cases respelled with
  | same => exact called
  | column named =>
    obtain ⟨_, called⟩ := called
    cases called
    cases named
  | call function treatment clauses context each _ asName' =>
    obtain ⟨_, called⟩ := called
    cases called with
    | call _ named argued window filter =>
      obtain _ | ⟨respelled, _ | _⟩ := each
      exact .value asName' (.call clauses named (argued.respelled respelled) window filter)

theorem Projection.KeptBy.respelled {items items' : List SelectItem} {projection : Projection}
    (kept : projection.KeptBy items) (respelled : List.Forall₂ SelectItem.Respelled items items') :
    projection.KeptBy items' := by
  cases projection with
  | wildcard =>
    cases kept
    obtain _ | ⟨⟨⟩, _ | _⟩ := respelled
    rfl
  | columns named =>
    induction respelled generalizing named with
    | nil => exact kept
    | cons first _ ih =>
      obtain _ | ⟨column, rest⟩ := kept
      exact .cons (column.respelled first) (ih _ rest)
  | aggregate called =>
    obtain ⟨item, rfl, calls⟩ := kept
    obtain _ | ⟨first, _ | _⟩ := respelled
    exact ⟨_, rfl, calls.respelled first⟩

/-- The tables of a request are those of the `FROM` clause from left to right, each under the last part of its name and
its alias. It keeps all columns just when the select list is a lone star. It asks for an aggregate just when the list is
a lone call, whose function has one of its words for a name, in any letter case and without quotes, and whose argument is
the one of the aggregate. Otherwise there is a column for each item, made of the last identifier of its name and the one
before that. Further brackets around columns and arguments, and other aliases, give the same request. -/
theorem request_follows_query {query : Query} {request : Request} (accepted : Request.ofQuery query = .ok request) :
    ∃ select, query.body = .select select ∧
      List.Forall₂ TableFactor.Names select.factors request.tables ∧
      (request.projection = .wildcard ↔ select.items = [.star]) ∧
      ((∃ aggregate, request.projection = .aggregate aggregate) ↔
        ∃ path arguments context asName, select.items = [.value (.call path arguments context) asName]) ∧
      (∀ function column, request.projection = .aggregate ⟨function, column⟩ →
        ∃ name argument clauses context asName,
          select.items = [.value (.call [⟨name, none⟩] (.list none [argument] clauses) context) asName] ∧
            (∃ word ∈ function.words, Text.SameLetters name word) ∧ argument.Names column) ∧
      (∀ columns, request.projection = .columns columns → List.Forall₂ SelectItem.NamesColumn select.items columns) ∧
      ∀ items, List.Forall₂ SelectItem.Respelled select.items items →
        Request.ofQuery { query with body := .select { select with items } } = .ok request := by
  obtain ⟨named, orderBy, limit, offset, fetch, select, body, asks⟩ := Request.ofQuery_eq_ok_iff.1 accepted
  have kept := asks.kept
  refine ⟨select, body, asks.factors, kept.eq_wildcard_iff, kept.is_aggregate_iff, ?_, ?_, ?_⟩
  · intro function column aggregate
    rw [aggregate] at kept
    exact kept.call_of_aggregate
  · intro columns each
    rwa [each] at kept
  · intro items respelled
    refine Request.ofQuery_eq_ok_iff.2 ⟨named, orderBy, limit, offset, fetch, _, rfl, ?_⟩
    exact { asks with kept := kept.respelled respelled }

/-- A query of two tables, one by a dotted name under an alias and one joined to it. -/
def joinedQuery (items : List SelectItem) : Query :=
  let apples : TableFactor := .table [⟨"main", none⟩, ⟨"apples", none⟩] none [] (some ⟨⟨"a", none⟩, []⟩) []
  let pears : TableFactor := .table [⟨"pears", some .double⟩] none [] none []
  ⟨none, .select ⟨none, none, items, none, [⟨apples, [⟨false, .cross, pears⟩]⟩], [], none, .keys [], [], [], [], none,
    [], none, false⟩, none, none, none, none, [], none⟩

def totalOf (argument : Expr) : Expr := .call [⟨"Total", none⟩] (.list none [.value argument] []) CallContext.none

/-- The sum of a column by three names, which may stand in brackets and have an alias. -/
theorem request_follows_query_total :
    Request.ofQuery (joinedQuery [.value (totalOf (.path [⟨"main", none⟩, ⟨"a", none⟩, ⟨"id", none⟩])) none]) =
      .ok ⟨[⟨"apples", some "a"⟩, ⟨"pears", none⟩], .aggregate ⟨.sum, some ⟨some "a", "id"⟩⟩⟩ ∧
    Request.ofQuery (joinedQuery [.value (totalOf (.nested (.nested (.path [⟨"main", none⟩, ⟨"a", none⟩, ⟨"id", none⟩]))))
      (some ⟨"n", none⟩)]) =
      .ok ⟨[⟨"apples", some "a"⟩, ⟨"pears", none⟩], .aggregate ⟨.sum, some ⟨some "a", "id"⟩⟩⟩ := by
  have accepted : Request.ofQuery (joinedQuery [.value (totalOf (.path [⟨"main", none⟩, ⟨"a", none⟩, ⟨"id", none⟩]))
      none]) = .ok ⟨[⟨"apples", some "a"⟩, ⟨"pears", none⟩], .aggregate ⟨.sum, some ⟨some "a", "id"⟩⟩⟩ :=
    Outcomes.ok_of_toOption (by decide +kernel)
  obtain ⟨select, body, -, -, -, -, -, again⟩ := request_follows_query accepted
  cases body
  exact ⟨accepted, again _ (.cons (.call _ _ _ _ (.cons (.value _ 2) .nil) _ _) .nil)⟩

end SqliteReader
