import SqliteReader.Proofs.AcceptedQueries
import SqliteReader.Proofs.ColumnsPicked
import SqliteReader.Proofs.ParsedTables

/-!
# Primary keys of tables

A key can be declared in its column or behind the columns. The column that stands for the row id is told here by the
statement alone (`KeyColumn`), and it is the one that the definition of the table has (`Describes.primaryKey_iff`).
When the only key of a table is declared in a column, it can as well be declared behind the columns, at any place among
the other constraints and by the name of the column in any case (`Respelled`): the definition is the same.
-/
namespace SqliteReader
open Sql

/-! ## Where a key is declared -/

/-- The option makes its column the primary key. -/
def Sql.ColumnOption.isKey (option : ColumnOption) : Bool :=
  match option.rule with
  | .primaryKey _ => true
  | _ => false

/-- The column is declared as the primary key. -/
def Sql.ColumnDefinition.Marked (column : ColumnDefinition) : Prop :=
  ∃ option ∈ column.options, ∃ checked, option.rule = .primaryKey checked

/-- The column, not declared as the primary key. -/
def Sql.ColumnDefinition.unmarked (column : ColumnDefinition) : ColumnDefinition :=
  { column with options := column.options.filter fun option => !option.isKey }

/-- The constraint is a key of so many columns. -/
def Sql.TableConstraint.IsKeyOf (constraint : TableConstraint) (keys : List Ident) : Prop :=
  ∃ head tail, constraint = .primaryKey head keys tail

/-- The names that a statement declares columns by. -/
def Sql.CreateTable.columnNames (create : CreateTable) : List String := create.columns.map (·.name.value)

/-- The column that stands for the row id: the first that is declared as the primary key. When there is none, it is the
one that a constraint names, the first constraint that is a key of one column and names any that is declared. -/
inductive KeyColumn (create : CreateTable) (index : Nat) : Prop
  | column {column : ColumnDefinition} (here : create.columns[index]? = some column) (marked : column.Marked)
    (first : ∀ earlier < index, ∀ other, create.columns[earlier]? = some other → ¬ other.Marked)
  | constraint {before behind : List TableConstraint} {constraint : TableConstraint} {key : Ident}
    (unmarked : ∀ column ∈ create.columns, ¬ column.Marked)
    (split : create.constraints = before ++ constraint :: behind) (keyed : constraint.IsKeyOf [key])
    (named : FirstNamed create.columnNames key.value index)
    (first : ∀ earlier ∈ before, ∀ key, earlier.IsKeyOf [key] → Undeclared create.columnNames key.value)

/-- The columns of a definition are those of the statement, each at its place, and the primary key is the column that
stands for the row id. -/
structure TableDefinition.Describes (create : CreateTable) (definition : TableDefinition) : Prop where
  length : definition.columns.length = create.columns.length
  column : ∀ (index : Nat) (column : ColumnDefinition), create.columns[index]? = some column →
    definition.columns[index]? = some ⟨column.name.value, (column.type.map DataType.text).getD "", index⟩
  primaryKey : ∀ index, definition.primaryKey = some index ↔ KeyColumn create index

theorem Sql.ColumnOption.isKey_iff {option : ColumnOption} :
    option.isKey = true ↔ ∃ checked, option.rule = .primaryKey checked := by
  rw [isKey]
  cases option.rule <;> simp

theorem isKey_iff {column : ColumnDefinition} : isKey column = true ↔ column.Marked := by
  simp only [ColumnDefinition.Marked, ← ColumnOption.isKey_iff]
  exact List.any_eq_true

theorem isKey_unmarked (column : ColumnDefinition) : isKey column.unmarked = false := by
  rw [← Bool.not_eq_true, isKey_iff]
  rintro ⟨option, inside, checked⟩
  have other := (List.mem_filter.1 inside).2
  rw [ColumnOption.isKey_iff.2 checked] at other
  cases other

/-- Of the columns with one declaration of a key between them, no other than the marked one is marked. -/
theorem not_marked_of_once {front behind : List ColumnDefinition} {column : ColumnDefinition} (marked : column.Marked)
    (once : ((front ++ column :: behind).flatMap ColumnDefinition.options).countP ColumnOption.isKey = 1) :
    ∀ other ∈ front, ¬ other.Marked := by
  rw [List.flatMap_append, List.flatMap_cons, List.countP_append, List.countP_append] at once
  obtain ⟨option, inside, checked⟩ := marked
  have here : 0 < column.options.countP ColumnOption.isKey :=
    List.countP_pos_iff.2 ⟨option, inside, ColumnOption.isKey_iff.2 checked⟩
  have none : (front.flatMap ColumnDefinition.options).countP ColumnOption.isKey = 0 := by omega
  rintro other among ⟨option, inside, checked⟩
  have within := List.mem_flatMap.2 ⟨other, among, inside⟩
  exact List.countP_eq_zero.1 none option within (ColumnOption.isKey_iff.2 checked)

namespace TableDefinition

/-- The columns that a statement declares, each with its place. -/
def placed (columns : List ColumnDefinition) : List Column :=
  columns.zipIdx.map fun (definition, position) => column definition position

theorem getElem?_placed (columns : List ColumnDefinition) (index : Nat) :
    (placed columns)[index]? = columns[index]?.map (column · index) := by
  simp [placed, List.getElem?_zipIdx, Function.comp_def]

theorem length_placed (columns : List ColumnDefinition) : (placed columns).length = columns.length := by
  simp [placed]

theorem map_name_placed (columns : List ColumnDefinition) :
    (placed columns).map Column.name = columns.map (·.name.value) := by
  refine List.ext_getElem? fun index => ?_
  simp [getElem?_placed, Function.comp_def, column]

theorem keyOf?_placed {create : CreateTable} (head : String) (key : Ident) (tail : List String) :
    keyOf? (placed create.columns) (.primaryKey head [key] tail) =
      create.columnNames.findIdx? (Text.sameName · key.value) := by
  rw [CreateTable.columnNames, ← map_name_placed, List.findIdx?_map]
  rfl

/-- A constraint that is no key of one column makes no column the primary key. -/
theorem keyOf?_of_other {columns : List Column} {constraint : TableConstraint}
    (other : ∀ key, ¬ constraint.IsKeyOf [key]) : keyOf? columns constraint = none := by
  unfold keyOf?
  split
  · rename_i head key tail
    exact absurd ⟨head, tail, rfl⟩ (other key)
  · rfl

theorem keyOf?_eq_some_iff {create : CreateTable} {constraint : TableConstraint} {index : Nat} :
    keyOf? (placed create.columns) constraint = some index ↔
      ∃ key, constraint.IsKeyOf [key] ∧ FirstNamed create.columnNames key.value index := by
  constructor
  · intro found
    by_cases keyed : ∃ key, constraint.IsKeyOf [key]
    · obtain ⟨key, head, tail, rfl⟩ := keyed
      rw [keyOf?_placed, findIdx?_sameName_eq_some_iff] at found
      exact ⟨key, ⟨head, tail, rfl⟩, found⟩
    · rw [keyOf?_of_other (not_exists.1 keyed)] at found
      cases found
  · rintro ⟨key, ⟨head, tail, rfl⟩, named⟩
    rw [keyOf?_placed, findIdx?_sameName_eq_some_iff]
    exact named

theorem keyOf?_eq_none_iff {create : CreateTable} {constraint : TableConstraint} :
    keyOf? (placed create.columns) constraint = none ↔
      ∀ key, constraint.IsKeyOf [key] → Undeclared create.columnNames key.value := by
  constructor
  · rintro none key ⟨head, tail, rfl⟩
    rwa [keyOf?_placed, findIdx?_sameName_eq_none_iff] at none
  · intro undeclared
    by_cases keyed : ∃ key, constraint.IsKeyOf [key]
    · obtain ⟨key, head, tail, rfl⟩ := keyed
      rw [keyOf?_placed, findIdx?_sameName_eq_none_iff]
      exact undeclared key ⟨head, tail, rfl⟩
    · exact keyOf?_of_other (not_exists.1 keyed)

/-- The column that stands for the row id, as it is looked for. -/
def keyFound? (create : CreateTable) : Option Nat :=
  (create.columns.findIdx? isKey).or (create.constraints.findSome? (keyOf? (placed create.columns)))

theorem keyFound?_eq_some_iff {create : CreateTable} {index : Nat} :
    keyFound? create = some index ↔ KeyColumn create index := by
  rw [keyFound?, Option.or_eq_some_iff, List.findIdx?_eq_some_iff_getElem, List.findIdx?_eq_none_iff,
    List.findSome?_eq_some_iff]
  simp only [keyOf?_eq_some_iff, keyOf?_eq_none_iff, ← Bool.not_eq_true, isKey_iff]
  constructor
  · rintro (⟨within, marked, first⟩ | ⟨unmarked, before, constraint, behind, split, ⟨key, keyed, named⟩, first⟩)
    · refine .column (List.getElem?_eq_getElem within) marked fun earlier below other there => ?_
      obtain ⟨_, rfl⟩ := List.getElem?_eq_some_iff.1 there
      exact first earlier below
    · exact .constraint unmarked split keyed named first
  · rintro (⟨here, marked, first⟩ | ⟨unmarked, split, keyed, named, first⟩)
    · obtain ⟨within, rfl⟩ := List.getElem?_eq_some_iff.1 here
      exact .inl ⟨within, marked, fun earlier below => first earlier below _ (List.getElem?_eq_getElem _)⟩
    · exact .inr ⟨unmarked, _, _, _, split, ⟨_, keyed, named⟩, first⟩

theorem keyFound?_of_unmarked {create : CreateTable} (unmarked : ∀ column ∈ create.columns, isKey column = false) :
    keyFound? create = create.constraints.findSome? (keyOf? (placed create.columns)) := by
  rw [keyFound?, List.findIdx?_eq_none_iff.2 unmarked, Option.none_or]

/-- The definition that a statement gives, in terms of the columns and the key. -/
theorem ofCreate_eq {create : CreateTable} (some : create.columns ≠ []) : ofCreate create =
    (lastName create.name).map fun name =>
      ⟨name, placed create.columns, keyFound? create, create.columns.any isAutoincrement⟩ := by
  unfold ofCreate
  rw [List.isEmpty_eq_false_iff.2 some]
  cases lastName create.name <;> rfl

theorem describes_of_ofCreate {create : CreateTable} (some : create.columns ≠ []) {definition : TableDefinition}
    (given : ofCreate create = .ok definition) : definition.Describes create := by
  rw [ofCreate_eq some] at given
  obtain ⟨name, -, rfl⟩ := Outcomes.ok_of_map given
  refine ⟨length_placed _, fun index column there => ?_, fun index => keyFound?_eq_some_iff⟩
  rw [getElem?_placed, there]
  rfl

theorem exists_ofCreate_iff {create : CreateTable} (some : create.columns ≠ []) :
    (∃ definition, ofCreate create = .ok definition) ↔ create.name ≠ [] := by
  rw [ofCreate_eq some, lastName, ← List.getLast?_isSome]
  cases create.name.getLast? <;> simp [Except.map]

/-- The key is one of the columns. -/
theorem Describes.key_lt {create : CreateTable} {definition : TableDefinition} (describes : definition.Describes create)
    {index : Nat} (key : definition.primaryKey = some index) : index < definition.columns.length := by
  rw [describes.length]
  cases (describes.primaryKey index).1 key with
  | column here marked first => exact (List.getElem?_eq_some_iff.1 here).1
  | constraint unmarked split keyed named first =>
    obtain ⟨declared, there, -⟩ := named.here
    have within := (List.getElem?_eq_some_iff.1 there).1
    rwa [CreateTable.columnNames, List.length_map] at within

end TableDefinition

/-! ## Other ways to declare a key -/

/-- The table without its keys of more than one column, or of none. -/
def Sql.CreateTable.withoutWideKeys (create : CreateTable) : CreateTable :=
  { create with constraints := create.constraints.filter fun
      | .primaryKey _ keys _ => keys.length == 1
      | .written _ => true }

/-- The same table, its only key declared behind the columns and no more in one of them. -/
inductive Sql.CreateTable.Respelled (create : CreateTable) : CreateTable → Prop
  | behind {column : ColumnDefinition} {before behind : List TableConstraint} {constraint : TableConstraint} {key : Ident}
    (distinct : create.columnNames.Pairwise fun name other => ¬ Text.SameLetters name other)
    (once : (create.columns.flatMap ColumnDefinition.options).countP ColumnOption.isKey = 1)
    (declared : column ∈ create.columns) (marked : column.Marked)
    (others : create.constraints = before ++ behind) (noKey : ∀ other ∈ create.constraints, ∀ keys, ¬ other.IsKeyOf keys)
    (keyed : constraint.IsKeyOf [key]) (named : Text.SameLetters key.value column.name.value) :
    Respelled create { create with
      columns := create.columns.map ColumnDefinition.unmarked, constraints := before ++ constraint :: behind }

namespace TableDefinition

/-- A key of several columns makes no difference. -/
theorem ofCreate_withoutWideKeys (create : CreateTable) : ofCreate create.withoutWideKeys = ofCreate create := by
  have same (columns : List Column) : create.withoutWideKeys.constraints.findSome? (keyOf? columns) =
      create.constraints.findSome? (keyOf? columns) := by
    rw [CreateTable.withoutWideKeys, ← List.head?_filterMap, ← List.head?_filterMap, List.filterMap_filter]
    congr 2
    funext constraint
    rcases constraint with ⟨head, _ | ⟨key, _ | ⟨other, keys⟩⟩, tail⟩ | text <;> rfl
  simp only [ofCreate, same]
  rfl

theorem placed_unmarked (columns : List ColumnDefinition) :
    placed (columns.map ColumnDefinition.unmarked) = placed columns := by
  refine List.ext_getElem? fun index => ?_
  rw [getElem?_placed, getElem?_placed, List.getElem?_map, Option.map_map]
  rfl

theorem isAutoincrement_unmarked (column : ColumnDefinition) :
    isAutoincrement column.unmarked = isAutoincrement column := by
  rw [isAutoincrement, isAutoincrement, ColumnDefinition.unmarked, List.any_filter]
  congr 1
  funext option
  rw [ColumnOption.isKey]
  cases option.rule <;> rfl

/-- The first item that is of a kind is found behind items that are not. -/
theorem findIdx?_of_first {α : Type} {p : α → Bool} {front behind : List α} {a : α} (none : ∀ b ∈ front, p b = false)
    (here : p a = true) : (front ++ a :: behind).findIdx? p = some front.length := by
  rw [List.findIdx?_append, List.findIdx?_eq_none_iff.2 none, Option.none_or, List.findIdx?_cons, here]
  simp

theorem keyFound?_respelled {create create' : CreateTable} (respelled : create.Respelled create') :
    keyFound? create' = keyFound? create := by
  obtain ⟨distinct, once, declared, marked, others, noKey, ⟨head, tail, rfl⟩, named⟩ := respelled
  rename_i column before behind key
  obtain ⟨front, back, split⟩ := List.append_of_mem declared
  have inColumn : keyFound? create = some front.length := by
    have first : create.columns.findIdx? isKey = some front.length := by
      rw [split]
      refine findIdx?_of_first (fun other among => ?_) (isKey_iff.2 marked)
      rw [← Bool.not_eq_true, isKey_iff]
      exact not_marked_of_once marked (split ▸ once) other among
    rw [keyFound?, first, Option.some_or]
  have byName : create.columnNames.findIdx? (Text.sameName · key.value) = some front.length := by
    rw [CreateTable.columnNames, split, List.map_append, List.map_cons] at distinct ⊢
    rw [findIdx?_of_first, List.length_map]
    · intro name among
      rw [← Bool.not_eq_true, Text.sameName_iff]
      exact fun same => (List.pairwise_append.1 distinct).2.2 name among _ (List.mem_cons_self ..) (same.trans named)
    · exact Text.sameName_iff.2 named.symm
  have none : before.findSome? (keyOf? (placed create.columns)) = none := by
    refine List.findSome?_eq_none_iff.2 fun other among => keyOf?_of_other fun key => noKey other ?_ [key]
    exact others ▸ List.mem_append_left _ among
  rw [inColumn, keyFound?_of_unmarked, List.findSome?_append, placed_unmarked, none, Option.none_or, List.findSome?_cons,
    keyOf?_placed, byName]
  intro column among
  obtain ⟨declared, -, rfl⟩ := List.mem_map.1 among
  exact isKey_unmarked declared

theorem ofCreate_respelled {create create' : CreateTable} (respelled : create.Respelled create') :
    ofCreate create' = ofCreate create := by
  have key := keyFound?_respelled respelled
  obtain ⟨distinct, once, declared, marked, others, noKey, keyed, named⟩ := respelled
  have some : create.columns ≠ [] := List.ne_nil_of_mem declared
  rw [ofCreate_eq some, ofCreate_eq (by simpa using some), key]
  simp only [placed_unmarked, List.any_map, Function.comp_def, isAutoincrement_unmarked]

end TableDefinition

/-- A statement that declares columns defines a table when it names one, so each text with such a statement does when
its dialect names tables. The columns of the definition are those that are declared, and its primary key is none of them
or the one that stands for the row id. A key of several columns makes no difference, nor does it where the only key of
one column is declared. -/
theorem key_declared_either_way [Dialect] :
    (∀ create : CreateTable, create.columns ≠ [] →
      ((∃ definition, TableDefinition.ofCreate create = .ok definition) ↔ create.name ≠ []) ∧
      ∀ definition, TableDefinition.ofCreate create = .ok definition → definition.Describes create ∧
        ∀ index, definition.primaryKey = some index → index < definition.columns.length) ∧
    (NamesTables → ∀ text create, Statement.ofText text = .ok (.createTable create) → create.columns ≠ [] →
      ∃ definition, TableDefinition.ofSql text = .ok definition ∧ definition.Describes create) ∧
    (∀ create : CreateTable,
      TableDefinition.ofCreate create.withoutWideKeys = TableDefinition.ofCreate create) ∧
    ∀ create create' : CreateTable, create.Respelled create' →
      TableDefinition.ofCreate create' = TableDefinition.ofCreate create := by
  refine ⟨fun create some => ⟨TableDefinition.exists_ofCreate_iff some, fun definition given => ?_⟩, ?_,
    TableDefinition.ofCreate_withoutWideKeys, fun _ _ => TableDefinition.ofCreate_respelled⟩
  · have describes := TableDefinition.describes_of_ofCreate some given
    exact ⟨describes, fun index => describes.key_lt⟩
  · intro names text create read some
    obtain ⟨definition, given⟩ := (TableDefinition.exists_ofCreate_iff some).2 (names text _ read create rfl)
    refine ⟨definition, ?_, TableDefinition.describes_of_ofCreate some given⟩
    rw [TableDefinition.ofSql, read]
    exact given

/-- A table with its key in the second column. -/
def keyInColumn : CreateTable where
  modifiers := []
  ifNotExists := false
  name := [⟨"t", none⟩]
  columns := [⟨⟨"a", none⟩, none, none, []⟩,
    ⟨⟨"b", none⟩, some (.known "INTEGER"), none, [⟨none, .primaryKey none⟩, ⟨none, .keyword "AUTOINCREMENT"⟩]⟩]
  constraints := [.written "UNIQUE (a)"]
  clauses := []
  hasSource := false

/-- The same table with its key behind the columns. -/
def keyBehind : CreateTable :=
  { keyInColumn with
    columns := [⟨⟨"a", none⟩, none, none, []⟩,
      ⟨⟨"b", none⟩, some (.known "INTEGER"), none, [⟨none, .keyword "AUTOINCREMENT"⟩]⟩]
    constraints := [.written "UNIQUE (a)", .primaryKey "PRIMARY KEY" [⟨"B", none⟩] []] }

theorem evaluated_keyInColumn :
    (match Statement.ofText "CREATE TABLE t(a, b INTEGER PRIMARY KEY AUTOINCREMENT, UNIQUE (a))" with
    | .ok (.createTable create) => some create
    | _ => none) = some keyInColumn := by
  decide +kernel

theorem respelled_keyInColumn : keyInColumn.Respelled keyBehind := by
  have letters {a b : String} : Text.SameLetters a b ↔ Text.sameName a b = true := Text.sameName_iff.symm
  refine @CreateTable.Respelled.behind keyInColumn keyInColumn.columns[1] [.written "UNIQUE (a)"] [] _ ⟨"B", none⟩ ?_ ?_
    ?_ ?_ ?_ ?_ ⟨"PRIMARY KEY", [], rfl⟩ ?_
  · simp only [letters]
    decide +kernel
  · decide +kernel
  · exact List.getElem_mem _
  · exact ⟨⟨none, .primaryKey none⟩, List.mem_cons_self .., none, rfl⟩
  · rfl
  · rintro _ among keys ⟨head, tail, rfl⟩
    cases among with
    | tail _ among => cases among
  · exact letters.2 (by decide +kernel)

/-- Either way the second column stands for the row id, also when the statement is read from a text. -/
theorem key_declared_either_way_second :
    Statement.ofText "CREATE TABLE t(a, b INTEGER PRIMARY KEY AUTOINCREMENT, UNIQUE (a))" =
        .ok (.createTable keyInColumn) ∧ keyInColumn.name ≠ [] ∧
      TableDefinition.ofCreate keyBehind = TableDefinition.ofCreate keyInColumn ∧
      ∃ definition,
        TableDefinition.ofSql "CREATE TABLE t(a, b INTEGER PRIMARY KEY AUTOINCREMENT, UNIQUE (a))" = .ok definition ∧
        TableDefinition.ofCreate keyInColumn = .ok definition ∧ definition.Describes keyInColumn ∧
        definition.primaryKey = some 1 ∧ 1 < definition.columns.length := by
  have read : Statement.ofText "CREATE TABLE t(a, b INTEGER PRIMARY KEY AUTOINCREMENT, UNIQUE (a))" =
      .ok (.createTable keyInColumn) := by
    have evaluated := evaluated_keyInColumn
    split at evaluated
    · rename_i create read
      cases evaluated
      exact read
    · cases evaluated
  have given : TableDefinition.ofCreate keyInColumn =
      .ok ⟨"t", [⟨"a", "", 0⟩, ⟨"b", "INTEGER", 1⟩], some 1, true⟩ := by decide +kernel
  obtain ⟨defined, ofText, -, respelled⟩ := key_declared_either_way
  have columns : keyInColumn.columns ≠ [] := List.cons_ne_nil _ _
  obtain ⟨named, describes⟩ := defined keyInColumn columns
  obtain ⟨describes, within⟩ := describes _ given
  obtain ⟨definition, fromText, -⟩ := ofText sqlite_namesTables _ _ read columns
  have same : definition = ⟨"t", [⟨"a", "", 0⟩, ⟨"b", "INTEGER", 1⟩], some 1, true⟩ := by
    rw [TableDefinition.ofSql, read] at fromText
    exact Except.ok.inj (fromText.symm.trans given)
  exact ⟨read, named.1 ⟨_, given⟩, respelled _ _ respelled_keyInColumn, _, fromText, same ▸ given, same ▸ describes,
    same ▸ rfl, same ▸ within 1 rfl⟩

end SqliteReader
