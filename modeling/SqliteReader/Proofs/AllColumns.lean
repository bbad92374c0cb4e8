import SqliteReader.Proofs.TableRecords

/-!
# All columns of the tables

A record has a value in every column of its table (`Holds`), so a row that can be read gives one row of the result
(`GivesRow`); otherwise there is a first thing about it that cannot be read (`NoRow`). In these terms a request for all
columns of some tables is answered (`all_columns_read`): it says when there are rows, which ones, and else which error
comes first.
-/
namespace SqliteReader
open Reading

/-- The field of a record in a column, which is null when the record has fewer fields. -/
inductive Stored (record : Record) (column : Nat) : Value → Prop
  | field {value : Value} (here : column < record.fieldCount) (read : record.value column = .ok value) :
    Stored record column value
  | missing (short : record.fieldCount ≤ column) : Stored record column .null

/-- The value of a record in a column: its field, or the row id for a null in the primary key. -/
inductive Holds (schema : TableSchema) (record : Record) (column : Nat) : Value → Prop
  | stored {value : Value} (stored : Stored record column value)
    (other : value ≠ .null ∨ schema.primaryKey ≠ some column) : Holds schema record column value
  | rowId (stored : Stored record column .null) (key : schema.primaryKey = some column) :
    Holds schema record column (.int64 record.rowId)

/-- The row of the result that a row of the table gives. -/
structure GivesRow (schema : TableSchema) (cell : LeafCell) (row : Row) : Prop where
  rowId : row.rowId = some cell.rowId
  length : row.values.length = schema.columns.length
  values : ∃ record, Record.ofCell cell = .ok record ∧
    ∀ column value, row.values[column]? = some value → Holds schema record column value

/-- What is met on the walk over a table gives no row: the page cannot be read, the row holds no record, or a column of
it cannot be read while all before it can. -/
inductive NoRow (schema : TableSchema) : Except Error LeafCell → Error → Prop
  | page (error : Error) : NoRow schema (.error error) error
  | record {cell : LeafCell} {error : Error} (none : Record.ofCell cell = .error error) : NoRow schema (.ok cell) error
  | column {cell : LeafCell} {record : Record} {column : Nat} {error : Error}
    (decoded : Record.ofCell cell = .ok record) (within : column < schema.columns.length)
    (here : column < record.fieldCount)
    (before : ∀ earlier < column, ∃ value, Holds schema record earlier value)
    (none : record.value column = .error error) : NoRow schema (.ok cell) error

/-- A row of the table holds a record, and every column of this record can be read. -/
def Legible (schema : TableSchema) (cell : LeafCell) : Prop :=
  ∃ record, Record.ofCell cell = .ok record ∧
    ∀ column < schema.columns.length, column < record.fieldCount → ∃ value, record.value column = .ok value

section
variable {schema : TableSchema} {record : Record} {column : Nat}

theorem stored_iff (value : Value) :
    (if column < record.fieldCount then record.value column else .ok .null) = .ok value ↔
      Stored record column value := by
  constructor
  · intro read
    split at read
    · exact .field ‹_› read
    · cases read
      exact .missing (Nat.le_of_not_lt ‹_›)
  · rintro (⟨here, read⟩ | ⟨short⟩)
    · rwa [if_pos here]
    · rw [if_neg (Nat.not_lt.2 short)]

/-- A column has the value that is found in it, unless the row id stands for a null. -/
theorem fieldValue_eq : Source.fieldValue schema record column =
    (if column < record.fieldCount then record.value column else .ok .null).map fun value =>
      if value = .null ∧ schema.primaryKey = some column then .int64 record.rowId else value := by
  have replaced (value : Value) : (if value.isNull && schema.primaryKey == some column then
      (return .int64 record.rowId : Except Error Value) else return value) =
        .ok (if value = .null ∧ schema.primaryKey = some column then .int64 record.rowId else value) := by
    cases value <;> simp [Value.isNull, pure, Except.pure, apply_ite Except.ok]
  rw [Source.fieldValue]
  simp only [replaced]
  split
  · cases record.value column <;> rfl
  · rfl

theorem fieldValue_eq_ok_iff (value : Value) :
    Source.fieldValue schema record column = .ok value ↔ Holds schema record column value := by
  rw [fieldValue_eq]
  constructor
  · intro read
    obtain ⟨found, stored, rfl⟩ := Outcomes.ok_of_map read
    have stored := (stored_iff found).1 stored
    split
    · next null =>
      obtain ⟨rfl, key⟩ := null
      exact .rowId stored key
    · next other => exact .stored stored (Decidable.not_and_iff_or_not.1 other)
  · rintro (⟨stored, other⟩ | ⟨stored, key⟩)
    · rw [(stored_iff _).2 stored, Except.map, if_neg (not_and_or.2 other)]
    · rw [(stored_iff _).2 stored, Except.map, if_pos ⟨rfl, key⟩]

/-- Only a field that is there can fail to be read. -/
theorem fieldValue_eq_error_iff (error : Error) : Source.fieldValue schema record column = .error error ↔
    column < record.fieldCount ∧ record.value column = .error error := by
  rw [fieldValue_eq, Outcomes.map_eq_error_iff]
  split
  · next here => simp [here]
  · next short => simp [short]

end

section
variable (schema : TableSchema) (record : Record)

theorem row_all_eq : (Selection.all schema).row schema record =
    (Outcomes.collect ((List.range schema.columns.length).map (Source.fieldValue schema record))).map
      fun values => ⟨some record.rowId, values⟩ := by
  have fields : (List.range schema.columns.length).map (Source.fieldValue schema record) =
      (Selection.all schema).sources.map (Source.value schema record) := by
    rw [Selection.all, List.map_map]
    rfl
  rw [Selection.row, Outcomes.mapM_eq_collect, fields]
  cases Outcomes.collect ((Selection.all schema).sources.map (Source.value schema record)) <;> rfl

/-- A record gives the row with its value in each column. -/
theorem row_all_eq_ok_iff (row : Row) : (Selection.all schema).row schema record = .ok row ↔
    row.rowId = some record.rowId ∧ row.values.length = schema.columns.length ∧
      ∀ column value, row.values[column]? = some value → Holds schema record column value := by
  have collected (values : List Value) :
      Outcomes.collect ((List.range schema.columns.length).map (Source.fieldValue schema record)) = .ok values ↔
        values.length = schema.columns.length ∧
          ∀ column value, values[column]? = some value → Holds schema record column value := by
    simp only [Outcomes.collect_map_eq_ok_iff, Outcomes.forall₂_range_iff, fieldValue_eq_ok_iff]
  rw [row_all_eq]
  constructor
  · intro made
    obtain ⟨values, read, rfl⟩ := Outcomes.ok_of_map made
    exact ⟨rfl, (collected values).1 read⟩
  · rintro ⟨rowId, held⟩
    rw [(collected row.values).2 held, Except.map, ← rowId]

/-- A record gives no row when a column of it cannot be read; the first such column counts. -/
theorem row_all_eq_error_iff (error : Error) : (Selection.all schema).row schema record = .error error ↔
    ∃ column < schema.columns.length, (∀ earlier < column, ∃ value, Holds schema record earlier value) ∧
      column < record.fieldCount ∧ record.value column = .error error := by
  simp only [row_all_eq, Outcomes.map_eq_error_iff, Outcomes.collect_range_eq_error_iff, fieldValue_eq_ok_iff,
    fieldValue_eq_error_iff]

end

section
variable (schema : TableSchema)

/-- The row of the result that a row of the table gives, or why it gives none. -/
def rowOf (cell : LeafCell) : Except Error Row := (Record.ofCell cell).bind ((Selection.all schema).row schema)

variable {schema}

theorem rowId_of_ofCell {cell : LeafCell} {record : Record} (decoded : Record.ofCell cell = .ok record) :
    record.rowId = cell.rowId := by
  obtain ⟨header, -, done⟩ := Outcomes.ok_of_bind decoded
  cases done
  rfl

theorem rowOf_eq_ok_iff (cell : LeafCell) (row : Row) : rowOf schema cell = .ok row ↔ GivesRow schema cell row := by
  constructor
  · intro made
    obtain ⟨record, decoded, made⟩ := Outcomes.ok_of_bind made
    obtain ⟨rowId, length, values⟩ := (row_all_eq_ok_iff schema record row).1 made
    rw [rowId_of_ofCell decoded] at rowId
    exact ⟨rowId, length, record, decoded, values⟩
  · rintro ⟨rowId, length, record, decoded, values⟩
    rw [← rowId_of_ofCell decoded] at rowId
    rw [rowOf, decoded]
    exact (row_all_eq_ok_iff schema record row).2 ⟨rowId, length, values⟩

theorem bind_rowOf_eq_error_iff (outcome : Except Error LeafCell) (error : Error) :
    outcome.bind (rowOf schema) = .error error ↔ NoRow schema outcome error := by
  constructor
  · intro failed
    cases outcome with
    | error other =>
      cases failed
      exact .page error
    | ok cell =>
      cases decoded : Record.ofCell cell with
      | error other =>
        simp only [Except.bind, rowOf, decoded] at failed
        cases failed
        exact .record decoded
      | ok record =>
        simp only [Except.bind, rowOf, decoded] at failed
        obtain ⟨column, within, before, here, none⟩ := (row_all_eq_error_iff schema record error).1 failed
        exact .column decoded within here before none
  · intro none
    cases none with
    | page => rfl
    | record none => simp only [Except.bind, rowOf, none]
    | column decoded within here before none =>
      simp only [Except.bind, rowOf, decoded]
      exact (row_all_eq_error_iff schema _ error).2 ⟨_, within, before, here, none⟩

theorem exists_givesRow_iff (cell : LeafCell) : (∃ row, GivesRow schema cell row) ↔ Legible schema cell := by
  constructor
  · rintro ⟨row, -, length, record, decoded, values⟩
    refine ⟨record, decoded, fun column within here => ?_⟩
    have held := values column _ (List.getElem?_eq_getElem (length ▸ within))
    obtain ⟨value, read⟩ : ∃ value, Source.fieldValue schema record column = .ok value :=
      ⟨_, (fieldValue_eq_ok_iff _).2 held⟩
    cases found : record.value column with
    | ok value => exact ⟨value, rfl⟩
    | error error =>
      rw [(fieldValue_eq_error_iff error).2 ⟨here, found⟩] at read
      cases read
  · rintro ⟨record, decoded, legible⟩
    cases made : (Selection.all schema).row schema record with
    | ok row => exact ⟨row, (rowOf_eq_ok_iff cell row).1 (by rw [rowOf, decoded]; exact made)⟩
    | error error =>
      obtain ⟨column, within, -, here, none⟩ := (row_all_eq_error_iff schema record error).1 made
      obtain ⟨value, read⟩ := legible column within here
      rw [read] at none
      cases none

end

/-! ## Tables -/

/-- A table that has been read: its schema, the rows it has and those it gives. -/
structure TableRead where
  schema : TableSchema
  cells : List LeafCell
  rows : List Row

/-- What is read of the table in all, when the pages are given by `load`. -/
def TableRead.result (load : PageNumber → Except Error Bytes) (read : TableRead) : ResultSet :=
  ⟨read.schema.columnNames, read.rows, passedOver load read.schema.rootPage⟩

section
variable [Sql.Dialect] (file : Bytes) (pageSize : Nat) (table : TableRef)

/-- The table is found, the walk over it meets rows only, and each gives a row of the result. -/
structure ReadsAll (read : TableRead) : Prop where
  found : (Catalog.findSchema table.name).answer file pageSize = .ok read.schema
  met : rowsMet (pageOf file pageSize) read.schema.rootPage = read.cells.map .ok
  given : List.Forall₂ (GivesRow read.schema) read.cells read.rows

/-- The table is found, the walk over it meets rows only, and each is legible. -/
def Readable : Prop :=
  ∃ (schema : TableSchema) (cells : List LeafCell), (Catalog.findSchema table.name).answer file pageSize = .ok schema ∧
    rowsMet (pageOf file pageSize) schema.rootPage = cells.map .ok ∧ ∀ cell ∈ cells, Legible schema cell

/-- The first thing about the table that cannot be read: its schema, or what the walk meets behind rows that give rows
of the result. -/
inductive FailsFirst : Error → Prop
  | schema {error : Error} (none : (Catalog.findSchema table.name).answer file pageSize = .error error) :
    FailsFirst error
  | row {schema : TableSchema} {before : List LeafCell} {outcome : Except Error LeafCell}
    {behind : List (Except Error LeafCell)} {rows : List Row} {error : Error}
    (found : (Catalog.findSchema table.name).answer file pageSize = .ok schema)
    (met : rowsMet (pageOf file pageSize) schema.rootPage = before.map .ok ++ outcome :: behind)
    (given : List.Forall₂ (GivesRow schema) before rows) (none : NoRow schema outcome error) : FailsFirst error

end

/-- What it means for some results to be laid end to end. -/
theorem ResultSet.eq_concat_iff {results : List ResultSet} (notNone : results ≠ []) (result : ResultSet) :
    result = .concat results ↔ some result.columns = results.head?.map ResultSet.columns ∧
      result.rows = results.flatMap ResultSet.rows ∧ result.skipped = results.flatMap ResultSet.skipped := by
  obtain ⟨first, rest, rfl⟩ := List.exists_cons_of_ne_nil notNone
  obtain ⟨columns, rows, skipped⟩ := result
  simp [ResultSet.concat]

namespace Request
variable [Sql.Dialect] {file : Bytes} {pageSize : Nat} {table : TableRef}

/-- The selection of all columns, which every table allows. -/
abbrev allColumns : TableRef → TableSchema → Except Error Selection := fun _ schema => .ok (.all schema)

theorem answer_readTable_all : (readTable allColumns table).answer file pageSize =
    ((Catalog.findSchema table.name).answer file pageSize).bind fun schema =>
      (Outcomes.collect ((rowsMet (pageOf file pageSize) schema.rootPage).map (·.bind (rowOf schema)))).map
        fun rows => ⟨schema.columnNames, rows, passedOver (pageOf file pageSize) schema.rootPage⟩ := by
  have made (schema : TableSchema) : (recordsMet (pageOf file pageSize) schema.rootPage).map
      (·.bind ((Selection.all schema).row schema)) =
        (rowsMet (pageOf file pageSize) schema.rootPage).map (·.bind (rowOf schema)) := by
    rw [recordsMet, List.map_map]
    refine List.map_congr_left fun outcome _ => ?_
    cases outcome <;> rfl
  rw [answer_readTable]
  congr 1
  funext schema
  rw [← made]
  rfl

theorem readTable_all_eq_ok_iff (result : ResultSet) : (readTable allColumns table).answer file pageSize = .ok result ↔
    ∃ read, ReadsAll file pageSize table read ∧ result = read.result (pageOf file pageSize) := by
  rw [answer_readTable_all]
  constructor
  · intro made
    obtain ⟨schema, found, made⟩ := Outcomes.ok_of_bind made
    obtain ⟨rows, collected, rfl⟩ := Outcomes.ok_of_map made
    obtain ⟨cells, met, given⟩ := (Outcomes.collect_map_bind_eq_ok_iff _ _ rows).1 collected
    exact ⟨⟨schema, cells, rows⟩, ⟨found, met, given.imp fun cell row => (rowOf_eq_ok_iff cell row).1⟩, rfl⟩
  · rintro ⟨read, ⟨found, met, given⟩, rfl⟩
    have collected := (Outcomes.collect_map_bind_eq_ok_iff (rowOf read.schema) _ read.rows).2
      ⟨read.cells, met, given.imp fun cell row => (rowOf_eq_ok_iff cell row).2⟩
    rw [found, Except.bind, collected]
    rfl

theorem readTable_all_eq_error_iff (error : Error) :
    (readTable allColumns table).answer file pageSize = .error error ↔ FailsFirst file pageSize table error := by
  -- What comes before the first failure is rows only, and these give rows.
  have given_iff (schema : TableSchema) (before : List (Except Error LeafCell)) (rows : List Row) :
      List.Forall₂ (fun outcome row => outcome.bind (rowOf schema) = .ok row) before rows ↔
        ∃ cells, before = cells.map .ok ∧ List.Forall₂ (GivesRow schema) cells rows := by
    simp only [← Outcomes.collect_map_eq_ok_iff, Outcomes.collect_map_bind_eq_ok_iff, rowOf_eq_ok_iff]
  rw [answer_readTable_all]
  constructor
  · intro failed
    cases found : (Catalog.findSchema table.name).answer file pageSize with
    | error other =>
      rw [found] at failed
      cases failed
      exact .schema found
    | ok schema =>
      rw [found, Except.bind, Outcomes.map_eq_error_iff, Outcomes.collect_map_eq_error_iff] at failed
      obtain ⟨before, outcome, behind, rows, met, given, none⟩ := failed
      obtain ⟨cells, rfl, rowsGiven⟩ := (given_iff schema before rows).1 given
      exact .row found met rowsGiven ((bind_rowOf_eq_error_iff outcome error).1 none)
  · intro fails
    cases fails with
    | schema none => rw [none, Except.bind]
    | row found met given none =>
      have collected := (Outcomes.collect_map_eq_error_iff _ _ error).2
        ⟨_, _, _, _, met, (given_iff _ _ _).2 ⟨_, rfl, given⟩, (bind_rowOf_eq_error_iff _ error).2 none⟩
      rw [found, Except.bind, Outcomes.map_eq_error_iff]
      exact collected

theorem exists_readsAll_iff : (∃ read, ReadsAll file pageSize table read) ↔ Readable file pageSize table := by
  constructor
  · rintro ⟨read, found, met, given⟩
    refine ⟨read.schema, read.cells, found, met, fun cell member => ?_⟩
    exact (exists_givesRow_iff cell).1 (Outcomes.exists_forall₂_iff.1 ⟨read.rows, given⟩ cell member)
  · rintro ⟨schema, cells, found, met, legible⟩
    obtain ⟨rows, given⟩ := Outcomes.exists_forall₂_iff.2 fun cell member =>
      (exists_givesRow_iff cell).2 (legible cell member)
    exact ⟨⟨schema, cells, rows⟩, found, met, given⟩

theorem exists_read_all_iff (tables : List TableRef) :
    (∃ result, (read allColumns tables).answer file pageSize = .ok result) ↔
      ∀ table ∈ tables, Readable file pageSize table := by
  have each (table : TableRef) : (∃ result, (readTable allColumns table).answer file pageSize = .ok result) ↔
      Readable file pageSize table := by
    rw [← exists_readsAll_iff]
    simp only [readTable_all_eq_ok_iff]
    exact ⟨fun ⟨_, read, reads, _⟩ => ⟨read, reads⟩, fun ⟨read, reads⟩ => ⟨_, read, reads, rfl⟩⟩
  simp only [← each, ← Outcomes.exists_forall₂_iff, ← Outcomes.collect_map_eq_ok_iff, answer_read]
  constructor
  · rintro ⟨result, collected⟩
    obtain ⟨results, collected, -⟩ := Outcomes.ok_of_map collected
    exact ⟨results, collected⟩
  · rintro ⟨results, collected⟩
    exact ⟨.concat results, by rw [collected, Except.map]⟩

theorem read_all_eq_ok_iff (tables : List TableRef) (result : ResultSet) :
    (read allColumns tables).answer file pageSize = .ok result ↔
      ∃ reads, List.Forall₂ (ReadsAll file pageSize) tables reads ∧
        result = .concat (reads.map (TableRead.result (pageOf file pageSize))) := by
  have collected (results : List ResultSet) :
      Outcomes.collect (tables.map fun table => (readTable allColumns table).answer file pageSize) = .ok results ↔
        ∃ reads, List.Forall₂ (ReadsAll file pageSize) tables reads ∧
          results = reads.map (TableRead.result (pageOf file pageSize)) := by
    rw [Outcomes.collect_map_eq_ok_iff, ← Outcomes.forall₂_map_iff]
    simp only [readTable_all_eq_ok_iff]
  rw [answer_read]
  constructor
  · intro made
    obtain ⟨results, done, rfl⟩ := Outcomes.ok_of_map made
    obtain ⟨reads, each, rfl⟩ := (collected results).1 done
    exact ⟨reads, each, rfl⟩
  · rintro ⟨reads, each, rfl⟩
    rw [(collected _).2 ⟨reads, each, rfl⟩, Except.map]

theorem read_all_eq_error_iff (tables : List TableRef) (error : Error) :
    (read allColumns tables).answer file pageSize = .error error ↔
      ∃ before table behind reads, tables = before ++ table :: behind ∧
        List.Forall₂ (ReadsAll file pageSize) before reads ∧ FailsFirst file pageSize table error := by
  simp only [answer_read, Outcomes.map_eq_error_iff, Outcomes.collect_map_eq_error_iff, readTable_all_eq_error_iff,
    readTable_all_eq_ok_iff, Outcomes.forall₂_map_iff]
  constructor
  · rintro ⟨before, table, behind, results, split, ⟨reads, each, -⟩, fails⟩
    exact ⟨before, table, behind, reads, split, each, fails⟩
  · rintro ⟨before, table, behind, reads, split, each, fails⟩
    exact ⟨before, table, behind, _, split, ⟨reads, each, rfl⟩, fails⟩

end Request

/-- A request for all columns succeeds when all its tables can be read. Then it gives the rows of the tables one behind
the other under the columns of the first, with the errors passed over; else it gives the first error. -/
theorem all_columns_read [Sql.Dialect] {file : Bytes} {pageSize : Nat} {pager : Pager}
    (onFile : pager.Over file pageSize) (request : Request) (tables : request.tables ≠ [])
    (columns : request.projection = .wildcard) :
    ((∃ result, (request.execute.on pager).1 = .ok result) ↔ ∀ table ∈ request.tables, Readable file pageSize table) ∧
      (∀ result, (request.execute.on pager).1 = .ok result ↔
        ∃ reads, List.Forall₂ (ReadsAll file pageSize) request.tables reads ∧
          some result.columns = reads.head?.map (fun read => read.schema.columnNames) ∧
          result.rows = reads.flatMap TableRead.rows ∧
          result.skipped = reads.flatMap fun read => passedOver (pageOf file pageSize) read.schema.rootPage) ∧
      ∀ error, (request.execute.on pager).1 = .error error ↔
        ∃ before table behind reads, request.tables = before ++ table :: behind ∧
          List.Forall₂ (ReadsAll file pageSize) before reads ∧ FailsFirst file pageSize table error := by
  have executed : request.execute = Request.read Request.allColumns request.tables := by
    rw [Request.execute_eq, columns, List.isEmpty_eq_false_iff.2 tables]
    rfl
  rw [(Request.execute_byPages request).answer_eq onFile, executed]
  refine ⟨Request.exists_read_all_iff request.tables, fun result => ?_, Request.read_all_eq_error_iff request.tables⟩
  rw [Request.read_all_eq_ok_iff]
  refine exists_congr fun reads => and_congr_right fun each => ?_
  have read : reads.map (TableRead.result (pageOf file pageSize)) ≠ [] := by
    intro none
    rw [List.map_eq_nil_iff.1 none, List.forall₂_nil_right_iff] at each
    exact tables each
  rw [ResultSet.eq_concat_iff read, List.head?_map, Option.map_map, List.flatMap_map, List.flatMap_map]
  rfl

/-- The row of the catalog that holds the entry of the table. -/
def keyEntryRow : Row :=
  ⟨some 1, [.text "table", .text "t", .text "t", .int8 2, .text "CREATE TABLE t(a PRIMARY KEY, b)"]⟩

theorem rowOf_keyPayload : rowOf .catalog ⟨1, 46, keyPayload⟩ = .ok keyEntryRow :=
  Outcomes.ok_of_toOption (by decide +kernel)

/-- A record shorter than its table has nulls behind it, and one in the primary key is its row id. The catalog is read
like any other table; a table that is not in it ends the reading. -/
theorem all_columns_read_key :
    ((Request.execute ⟨[⟨"t", none⟩, ⟨"SQLITE_MASTER", some "m"⟩], .wildcard⟩).on (.new keyFile 512 true)).1 =
      .ok ⟨["a", "b"], [⟨some 7, [.int64 7, .null]⟩, ⟨some (-1), [.int8 9, .text "x"]⟩, keyEntryRow],
        [.outOfBounds (.cellPointer 2) 0 512]⟩ ∧
    ((Request.execute ⟨[⟨"t", none⟩, ⟨"u", none⟩, ⟨"v", none⟩], .wildcard⟩).on (.new keyFile 512 false)).1 =
      .error (.tableNotFound "u") := by
  have short : rowOf keySchema ⟨7, 2, #[2, 0]⟩ = .ok ⟨some 7, [.int64 7, .null]⟩ :=
    Outcomes.ok_of_toOption (by decide +kernel)
  have long : rowOf keySchema ⟨-1, 5, #[3, 1, 15, 9, 120]⟩ = .ok ⟨some (-1), [.int8 9, .text "x"]⟩ :=
    Outcomes.ok_of_toOption (by decide +kernel)
  have table : ReadsAll keyFile 512 ⟨"t", none⟩ ⟨keySchema, [⟨7, 2, #[2, 0]⟩, ⟨-1, 5, #[3, 1, 15, 9, 120]⟩],
      [⟨some 7, [.int64 7, .null]⟩, ⟨some (-1), [.int8 9, .text "x"]⟩]⟩ := by
    refine ⟨?_, met_keyFile_leaf.1, .cons ((rowOf_eq_ok_iff _ _).1 short) (.cons ((rowOf_eq_ok_iff _ _).1 long) .nil)⟩
    rw [findSchema_keyFile (by decide +kernel), if_pos (by decide +kernel)]
  have catalog : ReadsAll keyFile 512 ⟨"SQLITE_MASTER", some "m"⟩
      ⟨.catalog, [⟨1, 46, keyPayload⟩], [keyEntryRow]⟩ := by
    refine ⟨?_, met_keyFile_catalog.1, .cons ((rowOf_eq_ok_iff _ _).1 rowOf_keyPayload) .nil⟩
    rw [Catalog.answer_findSchema, if_pos (by decide +kernel)]
  have missing : FailsFirst keyFile 512 ⟨"u", none⟩ (.tableNotFound "u") := by
    refine .schema ?_
    rw [findSchema_keyFile (by decide +kernel), if_neg (by decide +kernel)]
  constructor
  · refine ((all_columns_read (Pager.over_new keyFile 512 true) _ (by simp) rfl).2.1 _).2
      ⟨_, .cons table (.cons catalog .nil), rfl, rfl, ?_⟩
    have root : keySchema.rootPage = 2 := rfl
    have catalogAt : TableSchema.catalog.rootPage = catalogRoot := rfl
    simp only [List.flatMap_cons, List.flatMap_nil, root, catalogAt, met_keyFile_leaf.2, met_keyFile_catalog.2,
      List.append_nil]
  · exact ((all_columns_read (Pager.over_new keyFile 512 false) _ (by simp) rfl).2.2 _).2
      ⟨[⟨"t", none⟩], _, [⟨"v", none⟩], _, rfl, .cons table .nil, missing⟩

end SqliteReader
