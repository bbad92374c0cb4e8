import Mathlib.Data.List.Forall2
import SqliteReader.Proofs.Partial
import SqliteReader.Request.Plan
import SqliteReader.Sql.Parser.Statement

/-!
# The queries that are accepted

What a query asks for is told here by its form (`Query.Asks`): tables by their names, and a star, columns or one
aggregate. A request is made of a query just when the query asks for it (`Request.ofQuery_eq_ok_iff`). The form leaves
out some parts that a query can have, and a query keeps its request when they are all taken away (`Query.bare`), so none
of them is ever a reason to refuse a query, nor does it change what is read (`accepted_queries`).
-/
namespace SqliteReader
open Sql

/-! ## What a query asks for -/

/-- The table of a dotted name, under its alias. The last part of the name counts. -/
inductive Sql.TableFactor.Names : TableFactor → TableRef → Prop
  | table (front : Path) (last : Ident) (before : List String) (asName : Option TableAlias) (behind : List String) :
      Names (.table (front ++ [last]) none before asName behind) ⟨last.value, asName.map (·.name.value)⟩

/-- A table that is joined without any condition. -/
structure Sql.Join.Names (join : Join) (table : TableRef) : Prop where
  unconditional : join.operator = .cross ∨ join.operator = .on .inner .none
  relation : join.relation.Names table

/-- A table and those joined to it, in order. -/
inductive Sql.JoinedTables.Names : JoinedTables → List TableRef → Prop
  | joined {relation : TableFactor} {first : TableRef} {joins : List Join} {rest : List TableRef}
      (head : relation.Names first) (tail : List.Forall₂ Join.Names joins rest) : Names ⟨relation, joins⟩ (first :: rest)

/-- A name, or the last two parts of a dotted name, in any number of brackets. -/
inductive Sql.Expr.NamesColumn : Expr → ColumnRef → Prop
  | name (ident : Ident) : NamesColumn (.name ident) ⟨none, ident.value⟩
  | path (front : Path) (table column : Ident) :
      NamesColumn (.path (front ++ [table, column])) ⟨some table.value, column.value⟩
  | nested {inner : Expr} {column : ColumnRef} (named : inner.NamesColumn column) : NamesColumn (.nested inner) column

/-- The star, or a column. -/
inductive Sql.Argument.Names : Argument → Option ColumnRef → Prop
  | star : Names .star none
  | value {expr : Expr} {column : ColumnRef} (named : expr.NamesColumn column) : Names (.value expr) (some column)

/-- A call of an aggregate by its name, without a word before its only argument, a filter or a window. -/
inductive Sql.Expr.CallsAggregate : Expr → Aggregate → Prop
  | call {path : Path} {function : AggregateFunction} {argument : Argument} {column : Option ColumnRef}
      {context : CallContext} (clauses : List String) (named : AggregateFunction.ofName? path.text = some function)
      (argued : argument.Names column) (window : context.window = none) (filter : context.filter = none) :
      CallsAggregate (.call path (.list none [argument] clauses) context) ⟨function, column⟩

inductive Sql.SelectItem.NamesColumn : SelectItem → ColumnRef → Prop
  | value {expr : Expr} {column : ColumnRef} (asName : Option Ident) (named : expr.NamesColumn column) :
      NamesColumn (.value expr asName) column

inductive Sql.SelectItem.CallsAggregate : SelectItem → Aggregate → Prop
  | value {expr : Expr} {aggregate : Aggregate} (asName : Option Ident) (called : expr.CallsAggregate aggregate) :
      CallsAggregate (.value expr asName) aggregate

/-- A lone star keeps all columns; else each item is a column, or the only one is an aggregate. -/
def Projection.KeptBy (items : List SelectItem) : Projection → Prop
  | .wildcard => items = [.star]
  | .columns named => List.Forall₂ SelectItem.NamesColumn items named
  | .aggregate called => ∃ item, items = [item] ∧ item.CallsAggregate called

/-- What a `SELECT` of some tables asks for. -/
structure Sql.Select.Asks (select : Select) (request : Request) : Prop where
  distinct : select.distinct = none
  filter : select.filter = none
  grouping : select.grouping = .keys []
  having : select.having = none
  someTable : select.tables ≠ []
  tables : ∃ lists, List.Forall₂ JoinedTables.Names select.tables lists ∧ request.tables = lists.flatten
  kept : request.projection.KeptBy select.items

/-- What a query asks for that is one `SELECT` alone. -/
structure Sql.Query.Asks (query : Query) (request : Request) : Prop where
  named : query.named = none
  orderBy : query.orderBy = none
  limit : query.limit = none
  offset : query.offset = none
  fetch : query.fetch = none
  body : ∃ select, query.body = .select select ∧ select.Asks request

/-! ## Tables -/

theorem lastName_eq_ok_iff {path : Path} {name : String} :
    lastName path = .ok name ↔ ∃ front last, path = front ++ [last] ∧ last.value = name := by
  unfold lastName
  constructor
  · intro found
    split at found
    · rename_i last ends
      obtain ⟨front, rfl⟩ := List.getLast?_eq_some_iff.1 ends
      exact ⟨front, last, rfl, Except.ok.inj found⟩
    · cases found
  · rintro ⟨front, last, rfl, rfl⟩
    rw [List.getLast?_concat]

theorem TableRef.ofFactor_eq_ok_iff {factor : TableFactor} {table : TableRef} :
    ofFactor factor = .ok table ↔ factor.Names table := by
  constructor
  · intro accepted
    cases factor with
    | table path arguments before asName behind =>
      cases arguments with
      | some _ => cases accepted
      | none =>
        obtain ⟨name, found, same⟩ := Outcomes.ok_of_bind accepted
        obtain ⟨front, last, rfl, rfl⟩ := lastName_eq_ok_iff.1 found
        cases same
        exact .table front last before asName behind
    | nested _ => cases accepted
    | written _ => cases accepted
  · rintro ⟨front, last, before, asName, behind⟩
    have found : lastName (front ++ [last]) = .ok last.value := lastName_eq_ok_iff.2 ⟨front, last, rfl, rfl⟩
    rw [ofFactor, found]
    rfl

theorem isUnconditional_iff {operator : JoinOperator} :
    isUnconditional operator = true ↔ operator = .cross ∨ operator = .on .inner .none := by
  unfold isUnconditional
  split <;> simp_all

theorem TableRef.ofJoin_eq_ok_iff {join : Join} {table : TableRef} : ofJoin join = .ok table ↔ join.Names table := by
  unfold ofJoin
  constructor
  · intro accepted
    split at accepted
    · rename_i unconditional
      exact ⟨isUnconditional_iff.1 unconditional, ofFactor_eq_ok_iff.1 accepted⟩
    · cases accepted
  · rintro ⟨unconditional, relation⟩
    rw [if_pos (isUnconditional_iff.2 unconditional)]
    exact ofFactor_eq_ok_iff.2 relation

theorem TableRef.ofJoined_eq_ok_iff {joined : JoinedTables} {tables : List TableRef} :
    ofJoined joined = .ok tables ↔ joined.Names tables := by
  have joins (rest : List TableRef) : joined.joins.mapM ofJoin = .ok rest ↔
      List.Forall₂ Join.Names joined.joins rest := by
    rw [Outcomes.mapM_eq_ok_iff_forall₂]
    simp only [ofJoin_eq_ok_iff]
  constructor
  · intro accepted
    obtain ⟨first, head, accepted⟩ := Outcomes.ok_of_bind accepted
    obtain ⟨rest, tail, same⟩ := Outcomes.ok_of_bind accepted
    cases same
    exact .joined (ofFactor_eq_ok_iff.1 head) ((joins rest).1 tail)
  · rintro ⟨head, tail⟩
    rw [ofJoined, ofFactor_eq_ok_iff.2 head, (joins _).2 tail]
    rfl

/-! ## Select lists -/

theorem ColumnRef.ofExpr_eq_ok_iff {expr : Expr} {column : ColumnRef} :
    ofExpr expr = .ok column ↔ expr.NamesColumn column := by
  constructor
  · intro accepted
    fun_induction ofExpr expr with
    | case1 ident =>
      cases accepted
      exact .name ident
    | case2 parts last table front ends =>
      -- The parts are looked at from the last one on.
      have dotted : parts = front.reverse ++ [table, last] := by
        rw [← parts.reverse_reverse, ends]
        simp
      cases accepted
      rw [dotted]
      exact .path front.reverse table last
    | case3 => cases accepted
    | case4 inner ih => exact .nested (ih accepted)
    | case5 => cases accepted
    | case6 => cases accepted
  · intro named
    induction named with
    | name ident => rfl
    | path front table column =>
      have ends : (front ++ [table, column]).reverse = column :: table :: front.reverse := by simp
      rw [ofExpr, ends]
    | nested _ ih =>
      rw [ofExpr]
      exact ih

theorem Aggregate.ofCall_eq_ok_iff {path : Path} {arguments : Arguments} {context : CallContext}
    {aggregate : Aggregate} :
    ofCall path arguments context = .ok aggregate ↔ (Expr.call path arguments context).CallsAggregate aggregate := by
  constructor
  · intro accepted
    unfold ofCall at accepted
    split at accepted
    · cases accepted
    · rename_i function named
      split at accepted
      · cases accepted
      · rename_i alone
        obtain ⟨window, filter⟩ : context.window = none ∧ context.filter = none := by simpa using alone
        split at accepted
        · cases accepted
          exact .call _ named .star window filter
        · obtain ⟨column, named', same⟩ := Outcomes.ok_of_bind accepted
          cases same
          exact .call _ named (.value (ColumnRef.ofExpr_eq_ok_iff.1 named')) window filter
        · cases accepted
  · rintro ⟨clauses, named, argued, window, filter⟩
    cases argued with
    | star => simp [ofCall, named, window, filter]
    | value named' =>
      simp only [ofCall, named, window, filter, ColumnRef.ofExpr_eq_ok_iff.2 named']
      rfl

theorem selected_eq_inl_iff {item : SelectItem} {column : ColumnRef} :
    selected item = .ok (.inl column) ↔ item.NamesColumn column := by
  constructor
  · intro accepted
    unfold selected at accepted
    split at accepted
    · cases accepted
    · cases accepted
    · obtain ⟨_, _, same⟩ := Outcomes.ok_of_map accepted
      cases same
    · obtain ⟨_, named, same⟩ := Outcomes.ok_of_map accepted
      cases same
      exact .value _ (ColumnRef.ofExpr_eq_ok_iff.1 named)
  · rintro ⟨asName, named⟩
    have accepted := ColumnRef.ofExpr_eq_ok_iff.2 named
    cases named <;> simp [selected, accepted]

theorem selected_eq_inr_iff {item : SelectItem} {aggregate : Aggregate} :
    selected item = .ok (.inr aggregate) ↔ item.CallsAggregate aggregate := by
  constructor
  · intro accepted
    unfold selected at accepted
    split at accepted
    · cases accepted
    · cases accepted
    · obtain ⟨_, called, same⟩ := Outcomes.ok_of_map accepted
      cases same
      exact .value _ (Aggregate.ofCall_eq_ok_iff.1 called)
    · obtain ⟨_, _, same⟩ := Outcomes.ok_of_map accepted
      cases same
  · rintro ⟨asName, called⟩
    cases called with
    | call clauses named argued window filter =>
      rw [selected, Aggregate.ofCall_eq_ok_iff.2 (.call clauses named argued window filter)]
      rfl

/-- Items without an aggregate among them are columns. -/
theorem eq_map_inl_of_any_isRight {selection : List (ColumnRef ⊕ Aggregate)} (none : selection.any Sum.isRight = false) :
    selection = (selection.filterMap Sum.getLeft?).map .inl := by
  induction selection with
  | nil => rfl
  | cons item rest ih =>
    rw [List.any_cons, Bool.or_eq_false_iff] at none
    cases item with
    | inl column =>
      rw [List.filterMap_cons, Sum.getLeft?_inl, List.map_cons, ← ih none.2]
    | inr _ => cases none.1

/-- Any list but a lone star is told by its items: the only one is an aggregate, or all are columns. -/
theorem Projection.ofItems_eq_ok_of_ne {items : List SelectItem} (other : items ≠ [.star]) {projection : Projection} :
    ofItems items = .ok projection ↔ ∃ selection, items.mapM selected = .ok selection ∧
      ((∃ single, selection = [.inr single] ∧ projection = .aggregate single) ∨
        ∃ columns, selection = columns.map .inl ∧ projection = .columns columns) := by
  unfold ofItems
  split
  · exact absurd rfl other
  · constructor
    · intro accepted
      obtain ⟨selection, made, accepted⟩ := Outcomes.ok_of_bind accepted
      refine ⟨selection, made, ?_⟩
      split at accepted
      · rename_i single
        cases accepted
        exact .inl ⟨single, rfl, rfl⟩
      · cases mixed : selection.any Sum.isRight with
        | true =>
          rw [if_pos mixed] at accepted
          cases accepted
        | false =>
          simp only [mixed] at accepted
          cases accepted
          exact .inr ⟨_, eq_map_inl_of_any_isRight mixed, rfl⟩
    · rintro ⟨selection, made, ⟨single, rfl, rfl⟩ | ⟨columns, rfl, rfl⟩⟩
      · rw [made]
        rfl
      · have pure : (columns.map Sum.inl).any (Sum.isRight : ColumnRef ⊕ Aggregate → Bool) = false := by simp
        have kept : (columns.map (Sum.inl : _ → ColumnRef ⊕ Aggregate)).filterMap Sum.getLeft? = columns := by
          simp [List.filterMap_map, Function.comp_def]
        rw [made]
        simp only [Bind.bind, Except.bind]
        split
        · rename_i single alone
          cases columns <;> cases alone
        · simp only [pure, kept]
          rfl

theorem Projection.ofItems_eq_ok_iff {items : List SelectItem} {projection : Projection} :
    ofItems items = .ok projection ↔ projection.KeptBy items := by
  by_cases star : items = [.star]
  · -- A star is neither a column nor a call, so the list keeps nothing but all columns.
    cases star
    constructor
    · intro accepted
      cases accepted
      rfl
    · intro kept
      cases projection with
      | wildcard => rfl
      | columns named =>
        obtain _ | ⟨first, _⟩ := kept
        cases first
      | aggregate called =>
        obtain ⟨item, same, asName, _⟩ := kept
        cases same
  · rw [ofItems_eq_ok_of_ne star]
    simp only [Outcomes.mapM_eq_ok_iff_forall₂]
    constructor
    · rintro ⟨selection, each, ⟨single, rfl, rfl⟩ | ⟨columns, rfl, rfl⟩⟩
      · obtain _ | ⟨first, _ | _⟩ := each
        exact ⟨_, rfl, selected_eq_inr_iff.1 first⟩
      · rw [List.forall₂_map_right_iff] at each
        exact each.imp fun _ _ => selected_eq_inl_iff.1
    · intro kept
      cases projection with
      | wildcard => exact absurd kept star
      | columns named =>
        refine ⟨named.map .inl, ?_, .inr ⟨named, rfl, rfl⟩⟩
        rw [List.forall₂_map_right_iff]
        exact List.Forall₂.imp (fun _ _ => selected_eq_inl_iff.2) kept
      | aggregate called =>
        obtain ⟨item, rfl, calls⟩ := kept
        exact ⟨[.inr called], .cons (selected_eq_inr_iff.2 calls) .nil, .inl ⟨called, rfl, rfl⟩⟩

/-! ## Queries -/

theorem Request.outerClause?_eq_none_iff {query : Query} : outerClause? query = none ↔
    query.named = none ∧ query.orderBy = none ∧ query.limit = none ∧ query.offset = none ∧ query.fetch = none := by
  simp only [outerClause?, ← Option.not_isSome_iff_eq_none]
  grind

theorem isGrouped_eq_false_iff {grouping : Grouping} : isGrouped grouping = false ↔ grouping = .keys [] := by
  unfold isGrouped
  split <;> simp_all

theorem Request.innerClause?_eq_none_iff {select : Select} : innerClause? select = none ↔
    select.distinct = none ∧ select.filter = none ∧ select.grouping = .keys [] ∧ select.having = none := by
  simp only [innerClause?, ← Option.not_isSome_iff_eq_none, ← isGrouped_eq_false_iff]
  grind

theorem Request.ofSelect_eq_ok_iff {select : Select} {request : Request} :
    ofSelect select = .ok request ↔ select.Asks request := by
  unfold ofSelect
  constructor
  · intro accepted
    split at accepted
    · cases accepted
    · rename_i plain
      obtain ⟨distinct, filter, grouping, having'⟩ := innerClause?_eq_none_iff.1 plain
      split at accepted
      · cases accepted
      · rename_i someTable
        obtain ⟨lists, made, accepted⟩ := Outcomes.ok_of_bind accepted
        obtain ⟨projection, kept, same⟩ := Outcomes.ok_of_bind accepted
        cases same
        rw [Outcomes.mapM_eq_ok_iff_forall₂] at made
        exact ⟨distinct, filter, grouping, having', by simpa using someTable,
          ⟨lists, made.imp fun _ _ => TableRef.ofJoined_eq_ok_iff.1, rfl⟩, Projection.ofItems_eq_ok_iff.1 kept⟩
  · obtain ⟨tables, projection⟩ := request
    rintro ⟨distinct, filter, grouping, having', someTable, ⟨lists, named, same⟩, kept⟩
    have plain : innerClause? select = none := innerClause?_eq_none_iff.2 ⟨distinct, filter, grouping, having'⟩
    have made : select.tables.mapM TableRef.ofJoined = .ok lists :=
      Outcomes.mapM_eq_ok_iff_forall₂.2 (named.imp fun _ _ => TableRef.ofJoined_eq_ok_iff.2)
    have projected : Projection.ofItems select.items = .ok projection := Projection.ofItems_eq_ok_iff.2 kept
    have same : tables = lists.flatten := same
    rw [plain, same]
    simp only [List.isEmpty_eq_false_iff.2 someTable, made, projected]
    rfl

theorem Request.ofQuery_eq_ok_iff {query : Query} {request : Request} :
    ofQuery query = .ok request ↔ query.Asks request := by
  unfold ofQuery
  constructor
  · intro accepted
    split at accepted
    · cases accepted
    · rename_i plain
      obtain ⟨named, orderBy, limit, offset, fetch⟩ := outerClause?_eq_none_iff.1 plain
      split at accepted
      · rename_i select body
        exact ⟨named, orderBy, limit, offset, fetch, select, body, ofSelect_eq_ok_iff.1 accepted⟩
      · cases accepted
      · cases accepted
  · rintro ⟨named, orderBy, limit, offset, fetch, select, body, asks⟩
    rw [outerClause?_eq_none_iff.2 ⟨named, orderBy, limit, offset, fetch⟩, body]
    exact ofSelect_eq_ok_iff.2 asks

theorem Request.ofQuery_eq_error_iff {query : Query} :
    (∃ error, ofQuery query = .error error) ↔ ∀ request, ¬ query.Asks request := by
  simp only [← ofQuery_eq_ok_iff]
  cases ofQuery query <;> simp

/-! ## Parts that are not looked at -/

/-- A factor without the clauses around its alias, and without names for its columns. -/
def Sql.TableFactor.bare : TableFactor → TableFactor
  | .table name arguments _ asName _ => .table name arguments [] (asName.map fun asName => { asName with columns := [] }) []
  | .nested text => .nested text
  | .written text => .written text

def Sql.Join.bare (join : Join) : Join := { join with isGlobal := false, relation := join.relation.bare }

def Sql.JoinedTables.bare (joined : JoinedTables) : JoinedTables :=
  ⟨joined.relation.bare, joined.joins.map Join.bare⟩

/-- A call without braces, without clauses behind its arguments, an order within groups and a treatment of nulls. -/
def Sql.Expr.bare : Expr → Expr
  | .call function (.list treatment items _) context =>
    .call function (.list treatment items []) { CallContext.none with filter := context.filter, window := context.window }
  | expr => expr

def Sql.SelectItem.bare : SelectItem → SelectItem
  | .value expr _ => .value expr.bare none
  | item => item

/-- A `SELECT` without the clauses that are carried out nowhere and refused nowhere. -/
def Sql.Select.bare (select : Select) : Select :=
  { select with
    top := none, items := select.items.map SelectItem.bare, into := none
    tables := select.tables.map JoinedTables.bare, lateralViews := [], clusterBy := [], distributeBy := []
    sortBy := [], windows := [], qualify := none, windowsFirst := false }

def Sql.Query.bare (query : Query) : Query :=
  let body := match query.body with
    | .select select => .select select.bare
    | body => body
  { query with body, locks := [], forClause := none }

theorem Sql.TableFactor.bare_names_iff {factor : TableFactor} {table : TableRef} :
    factor.bare.Names table ↔ factor.Names table := by
  -- The function decides both sides, so that no list of names has to be split.
  rw [← TableRef.ofFactor_eq_ok_iff, ← TableRef.ofFactor_eq_ok_iff]
  cases factor with
  | table name arguments before asName behind =>
    cases arguments with
    | none =>
      have same : TableRef.ofFactor (TableFactor.table name none before asName behind).bare =
          TableRef.ofFactor (.table name none before asName behind) := by
        cases asName <;> rfl
      rw [same]
    | some arguments => exact ⟨fun accepted => (nomatch accepted), fun accepted => (nomatch accepted)⟩
  | nested text => rfl
  | written text => rfl

theorem Sql.Join.bare_names_iff {join : Join} {table : TableRef} : join.bare.Names table ↔ join.Names table := by
  constructor
  · rintro ⟨unconditional, relation⟩
    exact ⟨unconditional, TableFactor.bare_names_iff.1 relation⟩
  · rintro ⟨unconditional, relation⟩
    exact ⟨unconditional, TableFactor.bare_names_iff.2 relation⟩

theorem Sql.JoinedTables.bare_names_iff {joined : JoinedTables} {tables : List TableRef} :
    joined.bare.Names tables ↔ joined.Names tables := by
  obtain ⟨relation, joins⟩ := joined
  have each (rest : List TableRef) : List.Forall₂ Join.Names (joins.map Join.bare) rest ↔
      List.Forall₂ Join.Names joins rest := by
    simp only [List.forall₂_map_left_iff, Join.bare_names_iff]
  constructor
  · rintro ⟨head, tail⟩
    exact .joined (TableFactor.bare_names_iff.1 head) ((each _).1 tail)
  · rintro ⟨head, tail⟩
    exact .joined (TableFactor.bare_names_iff.2 head) ((each _).2 tail)

theorem Sql.Expr.bare_namesColumn_iff {expr : Expr} {column : ColumnRef} :
    expr.bare.NamesColumn column ↔ expr.NamesColumn column := by
  cases expr with
  | call function arguments context =>
    cases arguments <;> exact ⟨fun named => (nomatch named), fun named => (nomatch named)⟩
  | name _ => rfl
  | path _ => rfl
  | nested _ => rfl
  | written _ => rfl

theorem Sql.Expr.bare_callsAggregate_iff {expr : Expr} {aggregate : Aggregate} :
    expr.bare.CallsAggregate aggregate ↔ expr.CallsAggregate aggregate := by
  cases expr with
  | call function arguments context =>
    cases arguments with
    | list treatment items clauses =>
      constructor
      · rintro ⟨_, named, argued, window, filter⟩
        exact .call clauses named argued window filter
      · rintro ⟨_, named, argued, window, filter⟩
        exact .call [] named argued window filter
    | absent => rfl
    | query _ => rfl
  | name _ => rfl
  | path _ => rfl
  | nested _ => rfl
  | written _ => rfl

theorem Sql.SelectItem.bare_namesColumn_iff {item : SelectItem} {column : ColumnRef} :
    item.bare.NamesColumn column ↔ item.NamesColumn column := by
  cases item with
  | star => rfl
  | tableStar _ => rfl
  | value expr asName =>
    constructor
    · rintro ⟨_, named⟩
      exact .value asName (Expr.bare_namesColumn_iff.1 named)
    · rintro ⟨_, named⟩
      exact .value none (Expr.bare_namesColumn_iff.2 named)

theorem Sql.SelectItem.bare_callsAggregate_iff {item : SelectItem} {aggregate : Aggregate} :
    item.bare.CallsAggregate aggregate ↔ item.CallsAggregate aggregate := by
  cases item with
  | star => rfl
  | tableStar _ => rfl
  | value expr asName =>
    constructor
    · rintro ⟨_, called⟩
      exact .value asName (Expr.bare_callsAggregate_iff.1 called)
    · rintro ⟨_, called⟩
      exact .value none (Expr.bare_callsAggregate_iff.2 called)

theorem Projection.keptBy_bare_iff {items : List SelectItem} {projection : Projection} :
    projection.KeptBy (items.map SelectItem.bare) ↔ projection.KeptBy items := by
  cases projection with
  | wildcard =>
    have star (item : SelectItem) : item.bare = .star ↔ item = .star := by
      cases item <;> simp [SelectItem.bare]
    simp [KeptBy, List.map_eq_singleton_iff, star]
  | columns named => simp only [KeptBy, List.forall₂_map_left_iff, SelectItem.bare_namesColumn_iff]
  | aggregate called =>
    constructor
    · rintro ⟨_, same, calls⟩
      obtain ⟨item, rfl, rfl⟩ := List.map_eq_singleton_iff.1 same
      exact ⟨item, rfl, SelectItem.bare_callsAggregate_iff.1 calls⟩
    · rintro ⟨item, rfl, calls⟩
      exact ⟨item.bare, rfl, SelectItem.bare_callsAggregate_iff.2 calls⟩

theorem Sql.Select.bare_asks_iff {select : Select} {request : Request} :
    select.bare.Asks request ↔ select.Asks request := by
  have tables (lists : List (List TableRef)) : List.Forall₂ JoinedTables.Names select.bare.tables lists ↔
      List.Forall₂ JoinedTables.Names select.tables lists := by
    simp only [bare, List.forall₂_map_left_iff, JoinedTables.bare_names_iff]
  constructor
  · rintro ⟨distinct, filter, grouping, having', someTable, ⟨lists, named, same⟩, kept⟩
    exact ⟨distinct, filter, grouping, having', by simpa [bare] using someTable, ⟨lists, (tables lists).1 named, same⟩,
      Projection.keptBy_bare_iff.1 kept⟩
  · rintro ⟨distinct, filter, grouping, having', someTable, ⟨lists, named, same⟩, kept⟩
    exact ⟨distinct, filter, grouping, having', by simpa [bare] using someTable, ⟨lists, (tables lists).2 named, same⟩,
      Projection.keptBy_bare_iff.2 kept⟩

theorem Sql.Query.bare_asks_iff {query : Query} {request : Request} : query.bare.Asks request ↔ query.Asks request := by
  constructor
  · rintro ⟨named, orderBy, limit, offset, fetch, select', body, asks⟩
    cases plain : query.body with
    | select select =>
      simp only [bare, plain, QueryBody.select.injEq] at body
      rw [← body, Select.bare_asks_iff] at asks
      exact ⟨named, orderBy, limit, offset, fetch, select, plain, asks⟩
    | setOperation operator text => simp [bare, plain] at body
    | written text => simp [bare, plain] at body
  · rintro ⟨named, orderBy, limit, offset, fetch, select, body, asks⟩
    exact ⟨named, orderBy, limit, offset, fetch, select.bare, by simp [bare, body], Select.bare_asks_iff.2 asks⟩

/-- A request is made of a query when the query asks for it, and every other query is an error. Nothing that
`Query.bare` takes away is a reason to refuse a query, or changes the request that is made of it. -/
theorem accepted_queries (query : Query) :
    (∀ request, Request.ofQuery query = .ok request ↔ query.Asks request) ∧
      ((∃ error, Request.ofQuery query = .error error) ↔ ∀ request, ¬ query.Asks request) ∧
      ∀ request, Request.ofQuery query = .ok request ↔ Request.ofQuery query.bare = .ok request := by
  refine ⟨fun request => Request.ofQuery_eq_ok_iff, Request.ofQuery_eq_error_iff, fun request => ?_⟩
  rw [Request.ofQuery_eq_ok_iff, Request.ofQuery_eq_ok_iff, Query.bare_asks_iff]

/-- A text that restricts the rows of its table, read and made a request. -/
theorem evaluated_qualify : (match Statement.ofText "SELECT * FROM apples QUALIFY name = 'Fuji'" with
    | .ok (.query query) => match query.body with
      | .select select => some (select.qualify, (Request.ofQuery query).toOption)
      | _ => none
    | _ => none) = some (some "name = 'Fuji'", some ⟨[⟨"apples", none⟩], .wildcard⟩) := by
  decide +kernel

/-- The restriction is part of the query, and the request is for all rows. -/
theorem qualify_accepted : ∃ query select,
    Statement.ofText "SELECT * FROM apples QUALIFY name = 'Fuji'" = .ok (.query query) ∧
      query.body = .select select ∧ select.qualify = some "name = 'Fuji'" ∧
      Request.ofQuery query = .ok ⟨[⟨"apples", none⟩], .wildcard⟩ := by
  have evaluated := evaluated_qualify
  split at evaluated
  · rename_i query read
    split at evaluated
    · rename_i select body
      simp only [Option.some.injEq, Prod.mk.injEq] at evaluated
      exact ⟨query, select, read, body, evaluated.1, Outcomes.ok_of_toOption evaluated.2⟩
    · cases evaluated
  · cases evaluated

end SqliteReader
