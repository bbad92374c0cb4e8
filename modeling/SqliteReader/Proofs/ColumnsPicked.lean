import SqliteReader.Proofs.AllColumns
import SqliteReader.Proofs.LetterCase

/-!
# Columns picked from all columns

A reference is known when it means the table that is read and names one of its columns, or else its row id (`Known`). It
picks a value from a row with all columns: that of the first column of this name, or the row id when there is no such
column (`Picks`). Once a request for all columns of a table succeeds, a request for some columns of it succeeds just when
all its references are known, and then each row has the values that they pick; else the first unknown reference is an
error (`columns_picked_from_all`).
-/
namespace SqliteReader
open Reading

/-! ## What references mean -/

/-- The reference has no qualifier, or one that means the table: its alias, or its name when it has no alias. -/
def ColumnRef.InTable (column : ColumnRef) (table : TableRef) : Prop :=
  ∀ qualifier, column.table = some qualifier → Text.SameLetters (table.asName.getD table.name) qualifier

/-- The first of the names that is `name` stands at `index`. -/
structure FirstNamed (names : List String) (name : String) (index : Nat) : Prop where
  here : ∃ declared, names[index]? = some declared ∧ Text.SameLetters declared name
  before : ∀ earlier < index, ∀ declared, names[earlier]? = some declared → ¬ Text.SameLetters declared name

/-- None of the names is `name`. -/
def Undeclared (names : List String) (name : String) : Prop := ∀ declared ∈ names, ¬ Text.SameLetters declared name

/-- The name is one of those that the row id goes by. -/
def NamesRowId (name : String) : Prop :=
  Text.SameLetters "rowid" name ∨ Text.SameLetters "_rowid_" name ∨ Text.SameLetters "oid" name

/-- The reference means the table, and names one of its columns or its row id. -/
structure Known (table : TableRef) (names : List String) (column : ColumnRef) : Prop where
  inTable : column.InTable table
  named : (∃ declared ∈ names, Text.SameLetters declared column.name) ∨ NamesRowId column.name

/-- What is missing of a reference that is not known: the whole of it when it means another table, and else its name. -/
inductive Missing (table : TableRef) (names : List String) (column : ColumnRef) : String → Prop
  | table (other : ¬ column.InTable table) : Missing table names column column.qualifiedName
  | name (inTable : column.InTable table) (undeclared : Undeclared names column.name)
    (other : ¬ NamesRowId column.name) : Missing table names column column.name

/-- What a name picks from a row with all columns: the value in the first column of that name, or the row id when there
is no such column. -/
inductive Picks (names : List String) (all : Row) (name : String) : Value → Prop
  | column {index : Nat} {value : Value} (first : FirstNamed names name index)
    (there : all.values[index]? = some value) : Picks names all name value
  | rowId {rowId : RowId} (undeclared : Undeclared names name) (other : NamesRowId name)
    (number : all.rowId = some rowId) : Picks names all name (.int64 rowId)

/-- A row with the values that the references pick from a row with all columns. -/
structure PickedRow (names : List String) (columns : List ColumnRef) (all row : Row) : Prop where
  rowId : row.rowId = all.rowId
  values : List.Forall₂ (fun column value => Picks names all column.name value) columns row.values

/-! ## Sources of columns -/

theorem TableRef.isNamed_iff {table : TableRef} {qualifier : String} :
    table.isNamed qualifier = true ↔ Text.SameLetters (table.asName.getD table.name) qualifier := Text.sameName_iff

theorem namesRowId_iff {name : String} : rowIdNames.any (Text.sameName name) = true ↔ NamesRowId name := by
  have either (other : String) : Text.sameName name other = true ↔ Text.SameLetters other name := by
    rw [Text.sameName_iff, Text.sameLetters_iff, Text.sameLetters_iff, eq_comm]
  simp only [rowIdNames, List.any_cons, List.any_nil, Bool.or_false, Bool.or_eq_true, either, NamesRowId]

/-- The first of the names that is another is found by comparing them in order. -/
theorem findIdx?_sameName_eq_some_iff {names : List String} {name : String} {index : Nat} :
    names.findIdx? (Text.sameName · name) = some index ↔ FirstNamed names name index := by
  rw [List.findIdx?_eq_some_iff_getElem]
  constructor
  · rintro ⟨within, same, before⟩
    refine ⟨⟨_, List.getElem?_eq_getElem within, Text.sameName_iff.1 same⟩, fun earlier below declared there alike => ?_⟩
    obtain ⟨_, rfl⟩ := List.getElem?_eq_some_iff.1 there
    exact before earlier below (Text.sameName_iff.2 alike)
  · rintro ⟨⟨declared, there, same⟩, before⟩
    obtain ⟨within, rfl⟩ := List.getElem?_eq_some_iff.1 there
    refine ⟨within, Text.sameName_iff.2 same, fun earlier below alike => ?_⟩
    exact before earlier below _ (List.getElem?_eq_getElem _) (Text.sameName_iff.1 alike)

theorem findIdx?_sameName_eq_none_iff {names : List String} {name : String} :
    names.findIdx? (Text.sameName · name) = none ↔ Undeclared names name := by
  simp only [List.findIdx?_eq_none_iff, Undeclared, ← Text.sameName_iff, Bool.not_eq_true]

namespace TableSchema
variable {schema : TableSchema} {name : String}

theorem columnIndex?_eq : schema.columnIndex? name = schema.columnNames.findIdx? (Text.sameName · name) := by
  rw [columnNames, List.findIdx?_map]
  rfl

/-- A column is looked up by the first of the declared names that is its own. -/
theorem columnIndex?_eq_some_iff {index : Nat} :
    schema.columnIndex? name = some index ↔ FirstNamed schema.columnNames name index := by
  rw [columnIndex?_eq, findIdx?_sameName_eq_some_iff]

theorem columnIndex?_eq_none_iff : schema.columnIndex? name = none ↔ Undeclared schema.columnNames name := by
  rw [columnIndex?_eq, findIdx?_sameName_eq_none_iff]

end TableSchema

section
variable {table : TableRef} {names : List String} {column : ColumnRef}

theorem undeclared_iff {name : String} : Undeclared names name ↔ ¬ ∃ declared ∈ names, Text.SameLetters declared name := by
  simp only [Undeclared, not_exists, not_and]

theorem FirstNamed.declared {name : String} {index : Nat} (first : FirstNamed names name index) :
    ∃ declared ∈ names, Text.SameLetters declared name := by
  obtain ⟨declared, there, same⟩ := first.here
  exact ⟨declared, List.mem_of_getElem? there, same⟩

theorem Missing.not_known {missing : String} (absent : Missing table names column missing) : ¬ Known table names column := by
  rintro ⟨inTable, named⟩
  cases absent with
  | table other => exact other inTable
  | name _ undeclared other => exact named.elim (undeclared_iff.1 undeclared) other

theorem Missing.unique {missing missing' : String} (absent : Missing table names column missing)
    (absent' : Missing table names column missing') : missing = missing' := by
  cases absent with
  | table other =>
    cases absent' with
    | table _ => rfl
    | name inTable _ _ => exact absurd inTable other
  | name inTable _ _ =>
    cases absent' with
    | table other => exact absurd inTable other
    | name _ _ _ => rfl

end

namespace Source
variable {schema : TableSchema}

/-- A name stands for the first column that has it, or else for the row id, or it is not found. -/
theorem ofName_cases (name : String) :
    (∃ index, FirstNamed schema.columnNames name index ∧ ofName schema name = .ok (.field index)) ∨
    (Undeclared schema.columnNames name ∧ NamesRowId name ∧ ofName schema name = .ok .rowId) ∨
    Undeclared schema.columnNames name ∧ ¬ NamesRowId name ∧
      ofName schema name = .error (.columnNotFound name schema.tableName) := by
  cases found : schema.columnIndex? name with
  | some index => exact .inl ⟨index, TableSchema.columnIndex?_eq_some_iff.1 found, by simp only [ofName, found]⟩
  | none =>
    have undeclared := TableSchema.columnIndex?_eq_none_iff.1 found
    by_cases other : NamesRowId name
    · exact .inr (.inl ⟨undeclared, other, by simp only [ofName, found, namesRowId_iff.2 other, if_true]⟩)
    · have none : ¬ rowIdNames.any (Text.sameName name) = true := fun any => other (namesRowId_iff.1 any)
      exact .inr (.inr ⟨undeclared, other, by simp only [ofName, found, if_neg none]⟩)

/-- When one table is read, a reference that is known is looked up by its name, and any other is not found. -/
theorem ofColumn_cases {request : Request} {table : TableRef} (alone : request.tables = [table]) (column : ColumnRef) :
    (Known table schema.columnNames column ∧
      ∃ source, ofName schema column.name = .ok source ∧ ofColumn request table schema column = .ok source) ∨
    ∃ missing, Missing table schema.columnNames column missing ∧
      ofColumn request table schema column = .error (.columnNotFound missing schema.tableName) := by
  by_cases inTable : column.InTable table
  · -- Then the qualifier does not matter.
    have byName : ofColumn request table schema column = ofName schema column.name := by
      rw [ofColumn]
      split
      · rfl
      · rename_i qualifier qualified
        rw [if_pos (TableRef.isNamed_iff.2 (inTable qualifier qualified))]
    rw [byName]
    obtain ⟨index, first, found⟩ | ⟨undeclared, other, found⟩ | ⟨undeclared, other, failed⟩ := ofName_cases column.name
    · exact .inl ⟨⟨inTable, .inl first.declared⟩, _, found, found⟩
    · exact .inl ⟨⟨inTable, .inr other⟩, _, found, found⟩
    · exact .inr ⟨column.name, .name inTable undeclared other, failed⟩
  · refine .inr ⟨column.qualifiedName, .table inTable, ?_⟩
    obtain ⟨qualifier, qualified, other⟩ : ∃ qualifier, column.table = some qualifier ∧ ¬ table.isNamed qualifier = true := by
      simpa only [ColumnRef.InTable, not_forall, exists_prop, TableRef.isNamed_iff] using inTable
    simp only [ofColumn, qualified, alone, List.any_cons, List.any_nil, Bool.or_false, if_neg other]

variable {request : Request} {table : TableRef} {column : ColumnRef} (alone : request.tables = [table])
include alone

theorem ofColumn_eq_ok_iff {source : Source} : ofColumn request table schema column = .ok source ↔
    Known table schema.columnNames column ∧ ofName schema column.name = .ok source := by
  obtain ⟨known, other, found, selected⟩ | ⟨missing, absent, failed⟩ := ofColumn_cases alone column
  · rw [selected, found]
    exact ⟨fun same => ⟨known, same⟩, And.right⟩
  · rw [failed]
    simp only [reduceCtorEq, false_iff, not_and]
    exact fun known => absurd known absent.not_known

theorem exists_ofColumn_iff :
    (∃ source, ofColumn request table schema column = .ok source) ↔ Known table schema.columnNames column := by
  constructor
  · rintro ⟨source, selected⟩
    exact ((ofColumn_eq_ok_iff alone).1 selected).1
  · intro known
    obtain ⟨-, source, -, selected⟩ | ⟨missing, absent, -⟩ := ofColumn_cases alone column
    · exact ⟨source, selected⟩
    · exact absurd known absent.not_known

theorem ofColumn_eq_error_iff {error : Error} : ofColumn request table schema column = .error error ↔
    ∃ missing, Missing table schema.columnNames column missing ∧ error = .columnNotFound missing schema.tableName := by
  obtain ⟨known, source, -, selected⟩ | ⟨missing, absent, failed⟩ := ofColumn_cases alone column
  · rw [selected]
    simp only [reduceCtorEq, false_iff]
    rintro ⟨missing, absent, -⟩
    exact absent.not_known known
  · rw [failed]
    constructor
    · intro same
      cases same
      exact ⟨missing, absent, rfl⟩
    · rintro ⟨missing', absent', rfl⟩
      rw [absent.unique absent']

end Source

namespace Selection
variable {request : Request} {table : TableRef} {schema : TableSchema} {columns : List ColumnRef}

theorem ofColumns_eq : ofColumns request table schema columns =
    (Outcomes.collect (columns.map (Source.ofColumn request table schema))).map
      fun sources => ⟨columns.map ColumnRef.qualifiedName, sources⟩ := by
  rw [ofColumns, Outcomes.mapM_eq_collect]
  cases Outcomes.collect (columns.map (Source.ofColumn request table schema)) <;> rfl

variable (alone : request.tables = [table])
include alone

theorem exists_sources_iff : (∃ sources, List.Forall₂ (fun column source => Source.ofColumn request table schema column =
    .ok source) columns sources) ↔ ∀ column ∈ columns, Known table schema.columnNames column := by
  rw [Outcomes.exists_forall₂_iff]
  exact forall₂_congr fun column _ => Source.exists_ofColumn_iff alone

/-- Columns are selected under the references as they are written. -/
theorem sources_of_ofColumns {selection : Selection} (selected : ofColumns request table schema columns = .ok selection) :
    (∀ column ∈ columns, Known table schema.columnNames column) ∧ ∃ sources,
      List.Forall₂ (fun column source => Source.ofName schema column.name = .ok source) columns sources ∧
      selection = ⟨columns.map ColumnRef.qualifiedName, sources⟩ := by
  rw [ofColumns_eq] at selected
  obtain ⟨sources, collected, rfl⟩ := Outcomes.ok_of_map selected
  have each := (Outcomes.collect_map_eq_ok_iff _ columns sources).1 collected
  have known := (exists_sources_iff alone).1 ⟨sources, each⟩
  exact ⟨known, sources, each.imp fun _ _ one => ((Source.ofColumn_eq_ok_iff alone).1 one).2, rfl⟩

/-- Columns are not selected when a reference is unknown; the first one counts. -/
theorem ofColumns_eq_error_iff {error : Error} : ofColumns request table schema columns = .error error ↔
    ∃ before column behind missing, columns = before ++ column :: behind ∧
      (∀ earlier ∈ before, Known table schema.columnNames earlier) ∧ Missing table schema.columnNames column missing ∧
      error = .columnNotFound missing schema.tableName := by
  rw [ofColumns_eq, Outcomes.map_eq_error_iff, Outcomes.collect_map_eq_error_iff]
  constructor
  · rintro ⟨before, column, behind, sources, split, each, failed⟩
    obtain ⟨missing, absent, rfl⟩ := (Source.ofColumn_eq_error_iff alone).1 failed
    exact ⟨before, column, behind, missing, split, (exists_sources_iff alone).1 ⟨sources, each⟩, absent, rfl⟩
  · rintro ⟨before, column, behind, missing, split, known, absent, rfl⟩
    obtain ⟨sources, each⟩ := (exists_sources_iff alone).2 known
    exact ⟨before, column, behind, sources, split, each, (Source.ofColumn_eq_error_iff alone).2 ⟨missing, absent, rfl⟩⟩

end Selection

/-! ## Rows -/

section
variable {schema : TableSchema} {record : Record} {all : Row}

/-- The value from where a name stands for is the one that it picks from the row with all columns. -/
theorem picks_of_row_all (made : (Selection.all schema).row schema record = .ok all) {name : String} {source : Source}
    (found : Source.ofName schema name = .ok source) :
    ∃ value, Source.value schema record source = .ok value ∧ Picks schema.columnNames all name value := by
  obtain ⟨rowId, length, values⟩ := (row_all_eq_ok_iff schema record all).1 made
  obtain ⟨index, first, same⟩ | ⟨undeclared, other, same⟩ | ⟨-, -, failed⟩ := Source.ofName_cases name
  · rw [found] at same
    cases same
    obtain ⟨declared, there, -⟩ := first.here
    have within : index < all.values.length := by
      rw [length, ← List.length_map Column.name]
      exact (List.getElem?_eq_some_iff.1 there).1
    have held := values index _ (List.getElem?_eq_getElem within)
    exact ⟨_, (fieldValue_eq_ok_iff _).2 held, .column first (List.getElem?_eq_getElem within)⟩
  · rw [found] at same
    cases same
    exact ⟨.int64 record.rowId, rfl, .rowId undeclared other rowId⟩
  · rw [found] at failed
    cases failed

/-- Through the sources that some references stand for, a record gives the row that they pick. -/
theorem exists_pickedRow (made : (Selection.all schema).row schema record = .ok all) {columns : List ColumnRef}
    {sources : List Source} (found : List.Forall₂ (fun column source => Source.ofName schema column.name = .ok source)
      columns sources) (header : List String) :
    ∃ row, (Selection.mk header sources).row schema record = .ok row ∧ PickedRow schema.columnNames columns all row := by
  obtain ⟨values, picked, read⟩ := Outcomes.exists_forall₂_of_forall₂ found fun column source one => by
    obtain ⟨value, read, picked⟩ := picks_of_row_all made one
    exact ⟨value, picked, read⟩
  refine ⟨⟨some record.rowId, values⟩, ?_, ((row_all_eq_ok_iff schema record all).1 made).1.symm, picked⟩
  rw [Selection.row, Outcomes.mapM_eq_ok_iff_forall₂.2 read]
  rfl

end

namespace Request
variable [Sql.Dialect] {file : Bytes} {pageSize : Nat} {table : TableRef} {read : TableRead}
  (reads : ReadsAll file pageSize table read)
  (select : TableRef → TableSchema → Except Error Selection)
include reads

/-- A table that was read with all its columns is read through the sources that some references stand for. -/
theorem readTable_of_selected {columns : List ColumnRef} {sources : List Source}
    (found : List.Forall₂ (fun column source => Source.ofName read.schema column.name = .ok source)
      columns sources) {header : List String} (selected : select table read.schema = .ok ⟨header, sources⟩) :
    ∃ rows, (readTable select table).answer file pageSize =
        .ok ⟨header, rows, passedOver (pageOf file pageSize) read.schema.rootPage⟩ ∧
      List.Forall₂ (PickedRow read.schema.columnNames columns) read.rows rows := by
  obtain ⟨rows, picked, made⟩ := Outcomes.exists_forall₂_of_forall₂ (reads.given.flip) fun all cell gives => by
    obtain ⟨record, decoded, made⟩ := Outcomes.ok_of_bind ((rowOf_eq_ok_iff cell all).2 gives)
    obtain ⟨row, madeRow, picked⟩ := exists_pickedRow made found header
    exact ⟨row, picked, show (Record.ofCell cell).bind (Selection.row ⟨header, sources⟩ read.schema) = .ok row by rwa [decoded]⟩
  have met : (recordsMet (pageOf file pageSize) read.schema.rootPage).map
      (·.bind (Selection.row ⟨header, sources⟩ read.schema)) =
        read.cells.map fun cell => (Record.ofCell cell).bind (Selection.row ⟨header, sources⟩ read.schema) := by
    rw [recordsMet, reads.met, List.map_map, List.map_map]
    rfl
  refine ⟨rows, ?_, picked⟩
  rw [answer_readTable, reads.found]
  show (select table read.schema).bind _ = _
  rw [selected]
  show (Outcomes.collect _).map _ = _
  rw [met, (Outcomes.collect_map_eq_ok_iff _ read.cells rows).2 made]
  rfl

/-- A table is not read through references of which one is unknown. -/
theorem readTable_of_unselected {error : Error} (unselected : select table read.schema = .error error) :
    (readTable select table).answer file pageSize = .error error := by
  rw [answer_readTable, reads.found]
  simp only [Except.bind, unselected]

omit reads select

/-- What a request for some columns of one table selects. -/
abbrev someColumns (table : TableRef) (columns : List ColumnRef) : TableRef → TableSchema → Except Error Selection :=
  fun table' schema => Selection.ofColumns ⟨[table], .columns columns⟩ table' schema columns

theorem answer_execute_wildcard : (execute ⟨[table], .wildcard⟩).answer file pageSize =
    (readTable allColumns table).answer file pageSize := by
  rw [execute_eq, ← answer_read_one]
  rfl

theorem answer_execute_columns (columns : List ColumnRef) : (execute ⟨[table], .columns columns⟩).answer file pageSize =
    (readTable (someColumns table columns) table).answer file pageSize := by
  rw [execute_eq, ← answer_read_one]
  rfl

end Request

/-- Once all columns of a table are read, references to some columns of it are read when all of them are known. Then there
are as many rows with the same row ids, each with the values that the references pick, under the references as they are
written, and the same errors are passed over. Else the first unknown reference is not found. -/
theorem columns_picked_from_all [Sql.Dialect] {file : Bytes} {pageSize : Nat} {pager pager' : Pager}
    (onFile : pager.Over file pageSize) (onFile' : pager'.Over file pageSize) (table : TableRef) {whole : ResultSet}
    (all : ((Request.execute ⟨[table], .wildcard⟩).on pager).1 = .ok whole) (columns : List ColumnRef) :
    ∃ schema, (Catalog.findSchema table.name).answer file pageSize = .ok schema ∧ whole.columns = schema.columnNames ∧
      ((∃ result, ((Request.execute ⟨[table], .columns columns⟩).on pager').1 = .ok result) ↔
        ∀ column ∈ columns, Known table schema.columnNames column) ∧
      (∀ result, ((Request.execute ⟨[table], .columns columns⟩).on pager').1 = .ok result →
        result.columns = columns.map ColumnRef.qualifiedName ∧ result.skipped = whole.skipped ∧
        List.Forall₂ (PickedRow schema.columnNames columns) whole.rows result.rows) ∧
      ∀ error, ((Request.execute ⟨[table], .columns columns⟩).on pager').1 = .error error ↔
        ∃ before column behind missing, columns = before ++ column :: behind ∧
          (∀ earlier ∈ before, Known table schema.columnNames earlier) ∧
          Missing table schema.columnNames column missing ∧ error = .columnNotFound missing schema.tableName := by
  have alone : (Request.mk [table] (.columns columns)).tables = [table] := rfl
  rw [(Request.execute_byPages _).answer_eq onFile, Request.answer_execute_wildcard] at all
  obtain ⟨read, reads, rfl⟩ := (Request.readTable_all_eq_ok_iff whole).1 all
  rw [(Request.execute_byPages _).answer_eq onFile', Request.answer_execute_columns]
  refine ⟨read.schema, reads.found, rfl, ?_⟩
  simp only [← Selection.ofColumns_eq_error_iff alone]
  cases selected : Selection.ofColumns ⟨[table], .columns columns⟩ table read.schema columns with
  | ok selection =>
    obtain ⟨known, sources, found, rfl⟩ := Selection.sources_of_ofColumns alone selected
    obtain ⟨rows, answered, picked⟩ := Request.readTable_of_selected reads (Request.someColumns table columns) found selected
    rw [answered]
    refine ⟨⟨fun _ => known, fun _ => ⟨_, rfl⟩⟩, fun result same => ?_, fun error => ?_⟩
    · cases same
      exact ⟨rfl, rfl, picked⟩
    · simp only [reduceCtorEq]
  | error error =>
    rw [Request.readTable_of_unselected reads (Request.someColumns table columns) selected]
    obtain ⟨before, column, behind, missing, rfl, -, absent, -⟩ := (Selection.ofColumns_eq_error_iff alone).1 selected
    refine ⟨⟨?_, fun known => ?_⟩, ?_, fun other => by rw [Except.error.injEq, Except.error.injEq]⟩
    · rintro ⟨result, same⟩
      cases same
    · exact absurd (known column (List.mem_append_right _ List.mem_cons_self)) absent.not_known
    · intro result same
      cases same

/-- From a table with the columns `a` and `b`, read under an alias, the row id and both columns are picked, whatever the
case of their names. The name of the table does not mean it any more. -/
theorem columns_picked_from_all_key :
    let table : TableRef := ⟨"t", some "x"⟩
    let columns : List ColumnRef := [⟨some "X", "OID"⟩, ⟨none, "B"⟩, ⟨none, "a"⟩]
    let rows : List Row := [⟨some 7, [.int64 7, .null]⟩, ⟨some (-1), [.int8 9, .text "x"]⟩]
    let skipped : List Error := [.outOfBounds (.cellPointer 2) 0 512]
    ((Request.execute ⟨[table], .wildcard⟩).on (.new keyFile 512 true)).1 = .ok ⟨["a", "b"], rows, skipped⟩ ∧
      (∃ result, ((Request.execute ⟨[table], .columns columns⟩).on (.new keyFile 512 false)).1 = .ok result ∧
        result.columns = ["X.OID", "B", "a"] ∧ result.skipped = skipped ∧
        List.Forall₂ (PickedRow ["a", "b"] columns) rows result.rows) ∧
      ((Request.execute ⟨[table], .columns [⟨none, "b"⟩, ⟨some "t", "b"⟩]⟩).on (.new keyFile 512 false)).1 =
        .error (.columnNotFound "t.b" "t") := by
  intro table columns rows skipped
  have onFile := Pager.over_new keyFile 512
  have letters {a b : String} (same : Text.lowered a = Text.lowered b) : Text.SameLetters a b :=
    Text.sameLetters_iff.2 same
  have short : (Selection.all keySchema).row keySchema keyShort = .ok ⟨some 7, [.int64 7, .null]⟩ := rfl
  have long : (Selection.all keySchema).row keySchema keyLong = .ok ⟨some (-1), [.int8 9, .text "x"]⟩ :=
    Outcomes.ok_of_toOption (by decide +kernel)
  have all : ((Request.execute ⟨[table], .wildcard⟩).on (.new keyFile 512 true)).1 = .ok ⟨["a", "b"], rows, skipped⟩ := by
    rw [(Request.execute_byPages _).answer_eq (onFile true), Request.answer_execute_wildcard]
    exact readTable_keyFile (by decide +kernel) (by decide +kernel) rfl short long
  have found : (Catalog.findSchema table.name).answer keyFile 512 = .ok keySchema := by
    rw [findSchema_keyFile (by decide +kernel), if_pos (by decide +kernel)]
  have alone {column : ColumnRef} (unqualified : column.table = none) : column.InTable table := fun qualifier qualified => by
    rw [unqualified] at qualified
    cases qualified
  have byAlias : (ColumnRef.mk (some "X") "OID").InTable table := fun qualifier qualified => by
    cases qualified
    exact letters (by decide +kernel)
  have first : Known table keySchema.columnNames ⟨none, "b"⟩ :=
    ⟨alone rfl, .inl ⟨"b", by decide +kernel, letters (by decide +kernel)⟩⟩
  refine ⟨all, ?_, ?_⟩
  · obtain ⟨schema, found', -, succeeds, picked, -⟩ :=
      columns_picked_from_all (onFile true) (onFile false) table all columns
    rw [found] at found'
    cases found'
    have known : ∀ column ∈ columns, Known table keySchema.columnNames column := by
      simp only [columns, List.forall_mem_cons, List.not_mem_nil, false_implies, implies_true, and_true]
      refine ⟨⟨byAlias, .inr (.inr (.inr (letters (by decide +kernel))))⟩, ?_, ?_⟩
      · exact ⟨alone rfl, .inl ⟨"b", by decide +kernel, letters (by decide +kernel)⟩⟩
      · exact ⟨alone rfl, .inl ⟨"a", by decide +kernel, letters (by decide +kernel)⟩⟩
    obtain ⟨result, executed⟩ := succeeds.2 known
    obtain ⟨header, passed, each⟩ := picked result executed
    exact ⟨result, executed, header, passed, each⟩
  · obtain ⟨schema, found', -, -, -, fails⟩ := columns_picked_from_all (onFile true) (onFile false) table all
      [⟨none, "b"⟩, ⟨some "t", "b"⟩]
    rw [found] at found'
    cases found'
    refine (fails _).2 ⟨[⟨none, "b"⟩], ⟨some "t", "b"⟩, [], _, rfl, ?_, .table fun inTable => ?_, rfl⟩
    · simpa only [List.forall_mem_singleton] using first
    · have same := Text.sameLetters_iff.1 (inTable "t" rfl)
      revert same
      decide +kernel

end SqliteReader
