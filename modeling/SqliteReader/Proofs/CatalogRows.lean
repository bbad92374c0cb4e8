import SqliteReader.Proofs.AllColumns
import SqliteReader.Proofs.Catalog

/-!
# The catalog as entries and as a table

The catalog can be asked for its entries, and it can be read like any other table. A row from which an entry is made
holds the five fields of the entry (`Spells`), so both answers are about the same records
(`catalog_read_both_ways`): the entries are made of the records of the rows, and what gives no entry or is passed over
is counted on both sides alike.
-/
namespace SqliteReader
open Reading

/-- The values of a catalog row that an entry is made of. The root page may have any width, and null stands for none. -/
structure Spells (entry : Entry) (values : List Value) (root : Value) : Prop where
  fields : values = [.text entry.kind.word, .text entry.name, .text entry.tableName, root,
    (entry.sql.map Value.text).getD .null]
  root : root.toInt? = some (entry.rootPage.toNat : Int) ∨ root = .null ∧ entry.rootPage = 0

namespace Entry

theorem root_of_rootOf {root : Value} {page : PageNumber} (read : rootOf root = .ok page) :
    root.toInt? = some (page.toNat : Int) ∨ root = .null ∧ page = 0 := by
  unfold rootOf at read
  split at read
  · next number held =>
    split at read
    · next inside =>
      cases read
      left
      have below : number.toNat < UInt32.size := by omega
      rw [held, UInt32.toNat_ofNat_of_lt' below, Int.toNat_of_nonneg inside.1]
    · cases read
  · split at read
    · next none =>
      cases read
      right
      cases root <;> simp_all [Value.isNull]
    · cases read

theorem value_of_sqlOf {value : Value} {sql : Option String} (read : sqlOf value = .ok sql) :
    value = (sql.map Value.text).getD .null := by
  cases value <;> cases read <;> rfl

/-- A record from which an entry is made has at least five fields, and the first five hold the entry. -/
theorem fields_of_ofRecord {record : Record} {entry : Entry} (made : ofRecord record = .ok entry) :
    5 ≤ record.fieldCount ∧ ∃ values root, Spells entry values root ∧
      ∀ column value, values[column]? = some value → record.value column = .ok value := by
  obtain ⟨word, root, statement, made⟩ := ofRecord_eq_ok_iff.1 made
  have kindThere := made.kindThere
  rw [← EntryKind.word_ofWord word, ← made.kind] at kindThere
  have sqlThere := made.sqlThere
  rw [value_of_sqlOf made.sql] at sqlThere
  refine ⟨made.enough, _, root, ⟨rfl, root_of_rootOf made.rootPage⟩, fun column value held => ?_⟩
  rcases column with _ | _ | _ | _ | _ | column
  · cases held; exact kindThere
  · cases held; exact made.nameThere
  · cases held; exact made.tableThere
  · cases held; exact made.rootThere
  · cases held; exact sqlThere
  · cases held

end Entry

/-- A row of the result with the first five fields of a record, as null where the record has fewer. -/
structure Row.Of (record : Record) (row : Row) : Prop where
  rowId : row.rowId = some record.rowId
  length : row.values.length = 5
  values : ∀ column value, row.values[column]? = some value → Stored record column value

/-- In the catalog no row id stands for a null. -/
theorem holds_catalog_iff {record : Record} {column : Nat} (value : Value) :
    Holds .catalog record column value ↔ Stored record column value := by
  constructor
  · rintro (⟨stored, -⟩ | ⟨-, key⟩)
    · exact stored
    · cases key
  · intro stored
    exact .stored stored (.inr nofun)

theorem row_catalog_eq_ok_iff (record : Record) (row : Row) :
    (Selection.all .catalog).row .catalog record = .ok row ↔ Row.Of record row := by
  simp only [row_all_eq_ok_iff, holds_catalog_iff]
  exact ⟨fun ⟨rowId, length, values⟩ => ⟨rowId, length, values⟩, fun of => ⟨of.rowId, of.length, of.values⟩⟩

theorem row_of_entry {record : Record} {entry : Entry} (made : Entry.ofRecord record = .ok entry) :
    ∃ row, Row.Of record row ∧ ∃ root, Spells entry row.values root := by
  obtain ⟨enough, values, root, spells, held⟩ := Entry.fields_of_ofRecord made
  have five : values.length = 5 := by rw [spells.fields]; rfl
  refine ⟨⟨some record.rowId, values⟩, ⟨rfl, five, fun column value there => ?_⟩, root, spells⟩
  have within : column < values.length := (List.getElem?_eq_some_iff.1 there).1
  exact .field (by omega) (held column value there)

theorem rows_of_entries {records : List Record} {entries : List Entry}
    (made : List.Forall₂ (fun record entry => Entry.ofRecord record = .ok entry) records entries) :
    ∃ rows, List.Forall₂ Row.Of records rows ∧
      List.Forall₂ (fun entry row => ∃ root, Spells entry row.values root) entries rows := by
  induction made with
  | nil => exact ⟨[], .nil, .nil⟩
  | cons first _ ih =>
    obtain ⟨row, ofRecord, spells⟩ := row_of_entry first
    obtain ⟨rows, ofRecords, spelled⟩ := ih
    exact ⟨row :: rows, .cons ofRecord ofRecords, .cons spells spelled⟩

section
variable {file : Bytes} {pageSize : Nat}

/-- Read as a table the catalog has a row for each of its records. -/
theorem answer_catalogTable [Sql.Dialect] {name : String} (named : isCatalogName name = true) (asName : Option String)
    (result : ResultSet) : (Request.execute ⟨[⟨name, asName⟩], .wildcard⟩).answer file pageSize = .ok result ↔
      ∃ records, recordsMet (pageOf file pageSize) catalogRoot = records.map .ok ∧
        List.Forall₂ Row.Of records result.rows ∧ result.columns = TableSchema.catalog.columnNames ∧
          result.skipped = passedOver (pageOf file pageSize) catalogRoot := by
  have read : (Request.execute ⟨[⟨name, asName⟩], .wildcard⟩).answer file pageSize =
      (Outcomes.collect ((recordsMet (pageOf file pageSize) catalogRoot).map
        (·.bind ((Selection.all .catalog).row .catalog)))).map
          fun rows => ⟨TableSchema.catalog.columnNames, rows, passedOver (pageOf file pageSize) catalogRoot⟩ := by
    rw [Request.execute_eq]
    show (Request.read Request.allColumns _).answer file pageSize = _
    rw [Request.answer_read_one, Request.answer_readTable, Catalog.answer_findSchema, if_pos named]
    rfl
  rw [read]
  constructor
  · intro made
    obtain ⟨rows, collected, rfl⟩ := Outcomes.ok_of_map made
    obtain ⟨records, met, given⟩ := (Outcomes.collect_map_bind_eq_ok_iff _ _ rows).1 collected
    exact ⟨records, met, given.imp fun record row => (row_catalog_eq_ok_iff record row).1, rfl, rfl⟩
  · rintro ⟨records, met, given, columns, skipped⟩
    have collected := (Outcomes.collect_map_bind_eq_ok_iff _ _ result.rows).2
      ⟨records, met, given.imp fun record row => (row_catalog_eq_ok_iff record row).2⟩
    rw [collected, Except.map, ← columns, ← skipped]

/-- The entries are those that can be made of the records. -/
theorem entries_of_records {records : List Record}
    (met : recordsMet (pageOf file pageSize) catalogRoot = records.map .ok) :
    Catalog.entries.answer file pageSize = .ok ⟨Outcomes.results (records.map Entry.ofRecord),
      Outcomes.failures (records.map Entry.ofRecord) ++ passedOver (pageOf file pageSize) catalogRoot⟩ := by
  obtain ⟨cells, cellsMet, decoded⟩ := (Outcomes.collect_map_bind_eq_ok_iff _ _ records).1
    ((Outcomes.collect_eq_ok_iff _ records).2 met)
  have made : cells.map Catalog.entryOf = records.map Entry.ofRecord := by
    clear cellsMet met
    induction decoded with
    | nil => rfl
    | cons first _ ih => rw [List.map_cons, List.map_cons, ih, Catalog.entryOf, first, Except.bind]
  rw [Catalog.answer_entries, (Outcomes.collect_eq_ok_iff _ cells).2 cellsMet, Except.map, made]

/-- When no row and no page is at fault, an entry is made of each record. -/
theorem records_of_entries {read : Partial Entry} (answered : Catalog.entries.answer file pageSize = .ok read)
    (complete : read.errors = []) : passedOver (pageOf file pageSize) catalogRoot = [] ∧
      ∃ records, recordsMet (pageOf file pageSize) catalogRoot = records.map .ok ∧
        List.Forall₂ (fun record entry => Entry.ofRecord record = .ok entry) records read.results := by
  rw [Catalog.answer_entries] at answered
  obtain ⟨cells, cellsMet, rfl⟩ := Outcomes.ok_of_map answered
  obtain ⟨noFailure, nonePassed⟩ := List.append_eq_nil_iff.1 complete
  have made : (recordsMet (pageOf file pageSize) catalogRoot).map (·.bind Entry.ofRecord) =
      cells.map Catalog.entryOf := by
    rw [recordsMet, (Outcomes.collect_eq_ok_iff _ cells).1 cellsMet, List.map_map, List.map_map]
    rfl
  refine ⟨nonePassed, (Outcomes.collect_map_bind_eq_ok_iff _ _ _).1 ?_⟩
  rw [made, Outcomes.collect_eq_ok_iff]
  exact Outcomes.eq_map_ok_of_failures_nil noFailure

end

/-- Whenever the catalog can be read as a table, its entries can be read. They are made of the records of the rows in
this order, those that hold one, and there are as many entries and errors as rows and errors. When the entries are there
without any error, the catalog can be read as a table without any error, and its rows hold the entries in this order. -/
theorem catalog_read_both_ways [Sql.Dialect] {file : Bytes} {pageSize : Nat} {pager pager' : Pager}
    (onFile : pager.Over file pageSize) (onFile' : pager'.Over file pageSize) {name : String}
    (named : Text.sameName name "sqlite_master" = true ∨ Text.sameName name "sqlite_schema" = true)
    (asName : Option String) :
    (∀ result, ((Request.execute ⟨[⟨name, asName⟩], .wildcard⟩).on pager).1 = .ok result →
      ∃ records read, recordsMet (pageOf file pageSize) catalogRoot = records.map .ok ∧
        List.Forall₂ Row.Of records result.rows ∧ (Catalog.entries.on pager').1 = .ok read ∧
        read.results = Outcomes.results (records.map Entry.ofRecord) ∧
        read.results.length + read.errors.length = result.rows.length + result.skipped.length) ∧
    ∀ read, (Catalog.entries.on pager').1 = .ok read → read.errors = [] →
      ∃ rows, ((Request.execute ⟨[⟨name, asName⟩], .wildcard⟩).on pager).1 =
          .ok ⟨TableSchema.catalog.columnNames, rows, []⟩ ∧
        List.Forall₂ (fun entry row => ∃ root, Spells entry row.values root) read.results rows := by
  have catalog : isCatalogName name = true := by
    rcases named with named | named <;> simp [isCatalogName, catalogNames, named]
  rw [(Request.execute_byPages _).answer_eq onFile, Catalog.entries_byPages.answer_eq onFile']
  constructor
  · intro result answered
    obtain ⟨records, met, rows, -, skipped⟩ := (answer_catalogTable catalog asName result).1 answered
    refine ⟨records, _, met, rows, entries_of_records met, rfl, ?_⟩
    rw [List.length_append, ← Nat.add_assoc, Outcomes.length_results_add_failures, List.length_map, rows.length_eq,
      skipped]
  · intro read answered complete
    obtain ⟨none, records, met, made⟩ := records_of_entries answered complete
    obtain ⟨rows, ofRecords, spelled⟩ := rows_of_entries made
    exact ⟨rows, (answer_catalogTable catalog asName _).2 ⟨records, met, ofRecords, rfl, none.symm⟩, spelled⟩

/-- A catalog with the row of a table, a pointer that leads nowhere, and a row of one field. -/
def mixedCatalog : Bytes := #[13, 0, 0, 0, 3, 0, 114, 0, 0, 114, 0, 0, 0, 162, 46, 1] ++ keyPayload ++ #[2, 7, 2, 0]

def mixedFile : Bytes := smallFile mixedCatalog []

theorem met_mixedFile :
    rowsMet (pageOf mixedFile 512) catalogRoot = [.ok ⟨1, 46, keyPayload⟩, .ok ⟨7, 2, #[2, 0]⟩] ∧
      passedOver (pageOf mixedFile 512) catalogRoot = [.outOfBounds (.cellPointer 1) 0 512] := by
  have fits : ∀ content ∈ [smallHeader.toBytes ++ mixedCatalog], content.size ≤ 512 := by
    have payload : keyPayload.size = 46 := by decide +kernel
    simp [mixedCatalog, payload]
  exact met_of_evaluated [⟨1, 46, keyPayload⟩, ⟨7, 2, #[2, 0]⟩] [.outOfBounds (.cellPointer 1) 0 512]
    (pageOf_smallFile fits (by decide) rfl) (by decide +kernel)

/-- The row of one field is a row of the table, padded with nulls, but no entry; it counts on either side, and so does
the pointer. Where each row holds an entry, the table has just these rows. -/
theorem catalog_read_both_ways_mixed :
    ((Request.execute ⟨[⟨"SQLITE_master", none⟩], .wildcard⟩).on (.new mixedFile 512 true)).1 =
      .ok ⟨TableSchema.catalog.columnNames, [keyEntryRow, ⟨some 7, [.null, .null, .null, .null, .null]⟩],
        [.outOfBounds (.cellPointer 1) 0 512]⟩ ∧
    (∃ records read, recordsMet (pageOf mixedFile 512) catalogRoot = records.map .ok ∧
      List.Forall₂ Row.Of records [keyEntryRow, ⟨some 7, [.null, .null, .null, .null, .null]⟩] ∧
      (Catalog.entries.on (.new mixedFile 512 false)).1 = .ok read ∧
      read.results = Outcomes.results (records.map Entry.ofRecord) ∧
      read.results.length + read.errors.length = 2 + 1) ∧
    ∃ rows, ((Request.execute ⟨[⟨"Sqlite_Schema", some "s"⟩], .wildcard⟩).on (.new keyFile 512 true)).1 =
        .ok ⟨["type", "name", "tbl_name", "rootpage", "sql"], rows, []⟩ ∧
      List.Forall₂ (fun entry row => ∃ root, Spells entry row.values root) [keyEntry] rows := by
  have short : rowOf .catalog ⟨7, 2, #[2, 0]⟩ = .ok ⟨some 7, [.null, .null, .null, .null, .null]⟩ :=
    Outcomes.ok_of_toOption (by decide +kernel)
  obtain ⟨first, firstDecoded, firstMade⟩ := Outcomes.ok_of_bind rowOf_keyPayload
  obtain ⟨second, secondDecoded, secondMade⟩ := Outcomes.ok_of_bind short
  have met : recordsMet (pageOf mixedFile 512) catalogRoot = [first, second].map .ok := by
    simp only [recordsMet, met_mixedFile.1, List.map_cons, List.map_nil, Except.bind, firstDecoded, secondDecoded]
  have executed : ((Request.execute ⟨[⟨"SQLITE_master", none⟩], .wildcard⟩).on (.new mixedFile 512 true)).1 =
      .ok ⟨TableSchema.catalog.columnNames, [keyEntryRow, ⟨some 7, [.null, .null, .null, .null, .null]⟩],
        [.outOfBounds (.cellPointer 1) 0 512]⟩ := by
    rw [(Request.execute_byPages _).answer_eq (Pager.over_new mixedFile 512 true)]
    exact (answer_catalogTable (by decide +kernel) none _).2 ⟨_, met, .cons ((row_catalog_eq_ok_iff _ _).1 firstMade)
      (.cons ((row_catalog_eq_ok_iff _ _).1 secondMade) .nil), rfl, met_mixedFile.2.symm⟩
  have entries : (Catalog.entries.on (.new keyFile 512 false)).1 = .ok ⟨[keyEntry], []⟩ := by
    rw [Catalog.entries_byPages.answer_eq (Pager.over_new keyFile 512 false), entries_keyFile]
  refine ⟨executed, ?_, ?_⟩
  · exact (catalog_read_both_ways (Pager.over_new mixedFile 512 true) (Pager.over_new mixedFile 512 false)
      (.inl (by decide +kernel)) none).1 _ executed
  · exact (catalog_read_both_ways (Pager.over_new keyFile 512 true) (Pager.over_new keyFile 512 false)
      (.inr (by decide +kernel)) (some "s")).2 _ entries rfl

end SqliteReader
