import SqliteReader.Proofs.FileHeader
import SqliteReader.Proofs.Trees
import SqliteReader.Sql.Parser.Statement

/-!
# The records of a table

The walk over a table meets rows and errors (`rowsMet`), each row holds a record or none (`recordsMet`), and some are
passed over (`passedOver`). All that is read of a table is collected from these: its rows through a selection
(`answer_readTable`) as well as their number (`answer_countTable`). So whenever the rows of some tables can be read
they are counted, with the same errors passed over (`count_agrees_with_rows`).
-/
namespace SqliteReader
open Reading

section
variable (load : PageNumber → Except Error Bytes) (root : PageNumber)

/-- The rows that the walk over the table at `root` meets, with an error for each page that cannot be read. -/
def rowsMet : List (Except Error LeafCell) := (visits load root ∅ [root]).flatMap Visit.outcomes

/-- The records of these rows, with an error also for a row that holds none. -/
def recordsMet : List (Except Error Record) := (rowsMet load root).map (·.bind Record.ofCell)

/-- The errors of the rows and children that the walk over the table at `root` passes over. -/
def passedOver : List Error := (visits load root ∅ [root]).flatMap Visit.skipped

end

/-- A table whose root evaluates to a leaf has the rows of this leaf alone. -/
theorem met_of_evaluated {load : PageNumber → Except Error Bytes} {root : PageNumber} {data : Bytes}
    (cells : List LeafCell) (errors : List Error) (loaded : load root = .ok data)
    (read : ((Page.read root data).toOption.map fun page =>
      (page.kind, Outcomes.results page.rowsAt, Outcomes.failures page.rowsAt)) = some (.leafTable, cells, errors)) :
    rowsMet load root = cells.map .ok ∧ passedOver load root = errors := by
  obtain ⟨page, met, rfl, rfl⟩ := Visit.leaf_of_evaluated cells errors loaded read
  have visited : visits load root ∅ [root] = [.leaf page] := by
    rw [visits_of_bottom load root ∅ (by simp) (by simp) (by simp [met, Visit.below]), List.map_singleton, met]
  rw [rowsMet, passedOver, visited]
  constructor <;> simp [Visit.outcomes, Visit.rows, Visit.skipped]

section
variable {file : Bytes} {pageSize : Nat}

theorem answer_scanTable (root : PageNumber) : (scanTable root).answer file pageSize =
    (Outcomes.collect (rowsMet (pageOf file pageSize) root)).map
      fun cells => ⟨cells, passedOver (pageOf file pageSize) root⟩ :=
  on_scanTable (Pager.over_new file pageSize false) root

/-- A scan feeds the records of the table to the function, and fails with the first error among them. -/
theorem answer_foldRecords {β : Type} (f : β → Record → Except Error β) (state : β) (root : PageNumber) :
    (foldRecords f state root).answer file pageSize =
      ((recordsMet (pageOf file pageSize) root).foldlM
        (fun state (outcome : Except Error Record) => outcome.bind (f state)) state).map
          fun last => (last, passedOver (pageOf file pageSize) root) := by
  have fed (state : β) (outcome : Except Error LeafCell) :
      outcome.bind (fun cell => (Record.ofCell cell).bind (f state)) = (outcome.bind Record.ofCell).bind (f state) := by
    cases outcome <;> rfl
  rw [answer, foldRecords, on_foldCells (Pager.over_new file pageSize false)]
  simp only [fed, recordsMet, List.foldlM_map]
  rfl

/-- What is made of the records one by one, the last one first. -/
theorem answer_foldRecords_cons {β : Type} (f : Record → Except Error β) (root : PageNumber) :
    (foldRecords (fun made record => do return (← f record) :: made) [] root).answer file pageSize =
      (Outcomes.collect ((recordsMet (pageOf file pageSize) root).map (·.bind f))).map
        fun made => (made.reverse, passedOver (pageOf file pageSize) root) := by
  have consed := Outcomes.foldlM_cons_eq ((recordsMet (pageOf file pageSize) root).map (·.bind f)) []
  have fed (made : List β) (outcome : Except Error Record) :
      outcome.bind (fun record => do return (← f record) :: made) = (outcome.bind f).bind fun b => .ok (b :: made) := by
    cases outcome <;> rfl
  rw [List.foldlM_map] at consed
  rw [answer_foldRecords]
  simp only [fed, consed]
  cases Outcomes.collect ((recordsMet (pageOf file pageSize) root).map (·.bind f)) <;> simp [Except.map]

end

namespace Catalog
variable {file : Bytes} {pageSize : Nat}

/-- The entries of the catalog are those of its rows, and the errors of rows that hold none come before those of rows
that are passed over. -/
theorem answer_entries : entries.answer file pageSize =
    (Outcomes.collect (rowsMet (pageOf file pageSize) catalogRoot)).map fun cells =>
      ⟨Outcomes.results (cells.map entryOf),
        Outcomes.failures (cells.map entryOf) ++ passedOver (pageOf file pageSize) catalogRoot⟩ := by
  rw [entries, (scanTable_byPages catalogRoot).answer_bind fun _ => .pure _, answer_scanTable]
  cases Outcomes.collect (rowsMet (pageOf file pageSize) catalogRoot) with
  | error error => rfl
  | ok cells =>
    show Except.ok _ = Except.ok _
    rw [Outcomes.ofOutcomes_eq]

theorem answer_tableNames : tableNames.answer file pageSize = (entries.answer file pageSize).map fun read =>
    (read.results.filter Entry.isUserTable).map Entry.name := by
  rw [tableNames, entries_byPages.answer_bind fun _ => .pure _]
  cases entries.answer file pageSize <;> rfl

variable (name : String)

theorem answer_findTable : (findTable name).answer file pageSize =
    if isCatalogName name then .ok (catalogRoot, "") else (entries.answer file pageSize).bind fun read =>
      match read.results.find? (isTable name) with
      | some entry => .ok (entry.rootPage, entry.sql.getD "")
      | none => .error (.tableNotFound name) := by
  unfold findTable
  split
  · rfl
  · rw [entries_byPages.answer_bind fun read => ?_]
    · congr 1
      funext read
      cases read.results.find? (isTable name) <;> rfl
    · split
      · exact .pure _
      · exact .throw _

theorem answer_findSchema [Sql.Dialect] : (findSchema name).answer file pageSize =
    if isCatalogName name then .ok .catalog else
      ((findTable name).answer file pageSize).bind fun (root, sql) => schemaOf name root sql := by
  unfold findSchema
  split
  · rfl
  · rw [(findTable_byPages name).answer_bind fun (root, sql) => .ofExcept (schemaOf name root sql)]
    congr 1
    funext (root, sql)
    rw [answer, on_ofExcept]

end Catalog

namespace Request
variable [Sql.Dialect] {file : Bytes} {pageSize : Nat} (select : TableRef → TableSchema → Except Error Selection)

/-- What is read of a table through a selection: a row of each record, unless one of them cannot be made. -/
theorem answer_readTable (table : TableRef) : (readTable select table).answer file pageSize =
    ((Catalog.findSchema table.name).answer file pageSize).bind fun schema => (select table schema).bind fun selection =>
      (Outcomes.collect ((recordsMet (pageOf file pageSize) schema.rootPage).map (·.bind (selection.row schema)))).map
        fun rows => ⟨selection.names, rows, passedOver (pageOf file pageSize) schema.rootPage⟩ := by
  unfold readTable
  rw [(Catalog.findSchema_byPages table.name).answer_bind fun schema => (ByPages.ofExcept (select table schema)).bind
    fun _ => (foldRecords_byPages _ [] schema.rootPage).bind fun _ => .pure _]
  congr 1
  funext schema
  cases select table schema with
  | error error => rfl
  | ok selection =>
    show (foldRecords (fun made record => do return (← selection.row schema record) :: made) [] schema.rootPage >>=
      fun read => pure (⟨selection.names, read.1.reverse, read.2⟩ : ResultSet)).answer file pageSize = _
    rw [(foldRecords_byPages _ [] schema.rootPage).answer_bind fun _ => .pure _, answer_foldRecords_cons]
    show _ = (Outcomes.collect _).map _
    cases Outcomes.collect ((recordsMet (pageOf file pageSize) schema.rootPage).map (·.bind (selection.row schema))) with
    | error error => rfl
    | ok rows => simp [Except.map, Except.bind, answer]

/-- What is counted of a table: its records, unless one of them cannot be read. -/
theorem answer_countTable (table : TableRef) : (countTable table).answer file pageSize =
    ((Catalog.findSchema table.name).answer file pageSize).bind fun schema =>
      (Outcomes.collect (recordsMet (pageOf file pageSize) schema.rootPage)).map
        fun records => (records.length, passedOver (pageOf file pageSize) schema.rootPage) := by
  unfold countTable
  rw [(Catalog.findSchema_byPages table.name).answer_bind fun schema => foldRecords_byPages _ 0 schema.rootPage]
  congr 1
  funext schema
  rw [answer_foldRecords, Outcomes.foldlM_count_eq]
  cases Outcomes.collect (recordsMet (pageOf file pageSize) schema.rootPage) <;> simp [Except.map]

theorem answer_read (tables : List TableRef) : (read select tables).answer file pageSize =
    (Outcomes.collect (tables.map fun table => (readTable select table).answer file pageSize)).map ResultSet.concat := by
  rw [read, (ByPages.mapM (readTable_byPages select) tables).answer_map, ByPages.answer_mapM (readTable_byPages select)]

/-- What is read of one table alone is the result. -/
theorem answer_read_one (table : TableRef) :
    (read select [table]).answer file pageSize = (readTable select table).answer file pageSize := by
  rw [answer_read, List.map_singleton]
  cases (readTable select table).answer file pageSize with
  | error error => rfl
  | ok result => simp [Outcomes.collect, Except.map, ResultSet.concat]

theorem answer_count (tables : List TableRef) : (count tables).answer file pageSize =
    (Outcomes.collect (tables.map fun table => (countTable table).answer file pageSize)).map fun counts =>
      ⟨["COUNT(*)"], [⟨none, [.int64 (Int64.ofNat (counts.map Prod.fst).sum)]⟩], counts.flatMap Prod.snd⟩ := by
  unfold count
  rw [(ByPages.mapM countTable_byPages tables).answer_bind fun _ => .pure _, ByPages.answer_mapM countTable_byPages]
  cases Outcomes.collect (tables.map fun table => (countTable table).answer file pageSize) with
  | error error => rfl
  | ok counts =>
    have total : counts.foldl (fun total read => total + read.1) 0 = (counts.map Prod.fst).sum := by
      rw [List.sum_eq_foldl, List.foldl_map]
    show Except.ok _ = Except.ok _
    rw [total]
    rfl

/-! ## Rows and their number -/

variable {select}

/-- A table whose rows can be read has as many records as rows. -/
theorem countTable_of_readTable {table : TableRef} {result : ResultSet}
    (read : (readTable select table).answer file pageSize = .ok result) :
    (countTable table).answer file pageSize = .ok (result.rows.length, result.skipped) := by
  rw [answer_readTable] at read
  obtain ⟨schema, found, read⟩ := Outcomes.ok_of_bind read
  obtain ⟨selection, -, read⟩ := Outcomes.ok_of_bind read
  obtain ⟨rows, made, rfl⟩ := Outcomes.ok_of_map read
  obtain ⟨records, met, made⟩ := (Outcomes.collect_map_bind_eq_ok_iff _ _ rows).1 made
  rw [answer_countTable, found]
  show (Outcomes.collect (recordsMet (pageOf file pageSize) schema.rootPage)).map _ = _
  rw [(Outcomes.collect_eq_ok_iff _ records).2 met]
  show Except.ok (records.length, _) = _
  rw [made.length_eq]

/-- Tables whose rows can be read have as many records as rows in all. -/
theorem count_of_read {tables : List TableRef} {result : ResultSet}
    (rows : (read select tables).answer file pageSize = .ok result) : (count tables).answer file pageSize =
      .ok ⟨["COUNT(*)"], [⟨none, [.int64 (Int64.ofNat result.rows.length)]⟩], result.skipped⟩ := by
  rw [answer_read] at rows
  obtain ⟨results, collected, rfl⟩ := Outcomes.ok_of_map rows
  have each := (Outcomes.collect_map_eq_ok_iff _ tables results).1 collected
  have counted : List.Forall₂ (fun table count => (countTable table).answer file pageSize = .ok count) tables
      (results.map fun result => (result.rows.length, result.skipped)) := by
    rw [List.forall₂_map_right_iff]
    exact each.imp fun table result read => countTable_of_readTable read
  rw [answer_count, (Outcomes.collect_map_eq_ok_iff _ tables _).2 counted]
  have total : ((results.map fun result => (result.rows.length, result.skipped)).map Prod.fst).sum =
      (results.flatMap ResultSet.rows).length := by
    rw [List.length_flatMap, List.map_map]
    rfl
  have skipped : (results.map fun result => (result.rows.length, result.skipped)).flatMap Prod.snd =
      results.flatMap ResultSet.skipped := by
    rw [List.flatMap_map]
  simp only [Except.map, total, skipped]
  rfl

/-- Apart from aggregates, a request reads its tables through some selection. -/
theorem execute_rows (tables : List TableRef) {projection : Projection}
    (rows : projection = .wildcard ∨ ∃ columns, projection = .columns columns) :
    ∃ select, execute ⟨tables, projection⟩ = if tables.isEmpty then throw .noTable else read select tables := by
  rcases rows with rfl | ⟨columns, rfl⟩
  · exact ⟨_, execute_eq ⟨tables, .wildcard⟩⟩
  · exact ⟨_, execute_eq ⟨tables, .columns columns⟩⟩

end Request

/-- Whenever a request for rows succeeds, counting the rows of the same tables gives the number of these rows, with
the same errors passed over. So when counting fails, no request for rows of these tables succeeds. -/
theorem count_agrees_with_rows [Sql.Dialect] {file : Bytes} {pageSize : Nat} {pager pager' : Pager} (onFile : pager.Over file pageSize)
    (onFile' : pager'.Over file pageSize) (tables : List TableRef) {projection : Projection}
    (rows : projection = .wildcard ∨ ∃ columns, projection = .columns columns) :
    (∀ result, ((Request.execute ⟨tables, projection⟩).on pager).1 = .ok result →
      ((Request.execute ⟨tables, .aggregate .countStar⟩).on pager').1 =
        .ok ⟨["COUNT(*)"], [⟨none, [.int64 (Int64.ofNat result.rows.length)]⟩], result.skipped⟩) ∧
      ∀ error, ((Request.execute ⟨tables, .aggregate .countStar⟩).on pager').1 = .error error →
        ∃ other, ((Request.execute ⟨tables, projection⟩).on pager).1 = .error other := by
  have counted (result : ResultSet) (read : ((Request.execute ⟨tables, projection⟩).on pager).1 = .ok result) :
      ((Request.execute ⟨tables, .aggregate .countStar⟩).on pager').1 =
        .ok ⟨["COUNT(*)"], [⟨none, [.int64 (Int64.ofNat result.rows.length)]⟩], result.skipped⟩ := by
    rw [(Request.execute_byPages _).answer_eq onFile] at read
    rw [(Request.execute_byPages _).answer_eq onFile']
    obtain ⟨select, executed⟩ := Request.execute_rows tables rows
    rw [executed] at read
    rw [Request.execute_eq]
    cases none : tables.isEmpty with
    | true =>
      rw [none] at read
      cases read
    | false =>
      rw [none] at read
      exact Request.count_of_read read
  refine ⟨counted, fun error failed => ?_⟩
  cases read : ((Request.execute ⟨tables, projection⟩).on pager).1 with
  | error other => exact ⟨other, rfl⟩
  | ok result =>
    rw [counted result read] at failed
    cases failed

/-- What a catalog stores about a table with a primary key. -/
def keyPayload : Bytes :=
  Record.encode [.text "table", .text "t", .text "t", .int8 2, .text "CREATE TABLE t(a PRIMARY KEY, b)"]

/-- A catalog with this row. -/
def keyCatalog : Bytes := #[13, 0, 0, 0, 1, 0, 110, 0, 0, 110, 46, 1] ++ keyPayload

/-- A leaf with a row of one field, a pointer that leads nowhere, and a row of two fields. -/
def keyLeaf : Bytes := #[13, 0, 0, 0, 3, 0, 14, 0, 0, 14, 0, 0, 0, 18,
  2, 7, 2, 0, 5, 255, 255, 255, 255, 255, 255, 255, 255, 255, 3, 1, 15, 9, 120]

def keyFile : Bytes := smallFile keyCatalog [keyLeaf]

def keySchema : TableSchema :=
  ⟨"t", 2, "CREATE TABLE t(a PRIMARY KEY, b)", [⟨"a", "", 0⟩, ⟨"b", "", 1⟩], some 0, false⟩

theorem fits_keyFile : ∀ content ∈ [smallHeader.toBytes ++ keyCatalog, keyLeaf], content.size ≤ 512 := by
  have payload : keyPayload.size = 46 := by decide +kernel
  simp [keyCatalog, keyLeaf, payload]

theorem met_keyFile_catalog : rowsMet (pageOf keyFile 512) catalogRoot = [.ok ⟨1, 46, keyPayload⟩] ∧
    passedOver (pageOf keyFile 512) catalogRoot = [] :=
  met_of_evaluated [⟨1, 46, keyPayload⟩] [] (pageOf_smallFile fits_keyFile (by decide) rfl) (by decide +kernel)

theorem met_keyFile_leaf :
    rowsMet (pageOf keyFile 512) 2 = [.ok ⟨7, 2, #[2, 0]⟩, .ok ⟨-1, 5, #[3, 1, 15, 9, 120]⟩] ∧
      passedOver (pageOf keyFile 512) 2 = [.outOfBounds (.cellPointer 2) 0 512] :=
  met_of_evaluated [⟨7, 2, #[2, 0]⟩, ⟨-1, 5, #[3, 1, 15, 9, 120]⟩] [.outOfBounds (.cellPointer 2) 0 512]
    (pageOf_smallFile fits_keyFile (by decide) rfl) (by decide +kernel)

/-- The record with one field. -/
def keyShort : Record := ⟨7, ⟨2, [⟨.null, 2, 0⟩]⟩, #[2, 0]⟩

/-- The record with two fields. -/
def keyLong : Record := ⟨-1, ⟨3, [⟨.int8, 3, 1⟩, ⟨.text 1, 4, 1⟩]⟩, #[3, 1, 15, 9, 120]⟩

theorem records_keyFile : recordsMet (pageOf keyFile 512) 2 = [.ok keyShort, .ok keyLong] := by
  have short : Record.ofCell ⟨7, 2, #[2, 0]⟩ = .ok keyShort := Outcomes.ok_of_toOption (by decide +kernel)
  have long : Record.ofCell ⟨-1, 5, #[3, 1, 15, 9, 120]⟩ = .ok keyLong := Outcomes.ok_of_toOption (by decide +kernel)
  simp only [recordsMet, met_keyFile_leaf.1, List.map_cons, List.map_nil, Except.bind, short, long]

/-- The entry of the table in the catalog. -/
def keyEntry : Entry := ⟨.table, "t", "t", 2, some "CREATE TABLE t(a PRIMARY KEY, b)"⟩

theorem entries_keyFile : Catalog.entries.answer keyFile 512 = .ok ⟨[keyEntry], []⟩ := by
  obtain ⟨rows, passed⟩ := met_keyFile_catalog
  have entry : Catalog.entryOf ⟨1, 46, keyPayload⟩ = .ok keyEntry := Outcomes.ok_of_toOption (by decide +kernel)
  rw [Catalog.answer_entries, rows, passed]
  simp [Outcomes.collect, Except.map, entry]

/-- The catalog has one table, which is found up to the case of its name. -/
theorem findSchema_keyFile {name : String} (other : isCatalogName name = false) :
    (Catalog.findSchema name).answer keyFile 512 =
      if Text.sameName "t" name then .ok keySchema else .error (.tableNotFound name) := by
  have schema : Catalog.schemaOf name 2 "CREATE TABLE t(a PRIMARY KEY, b)" = .ok keySchema := by
    have definition : TableDefinition.ofSql "CREATE TABLE t(a PRIMARY KEY, b)" =
        .ok ⟨"t", [⟨"a", "", 0⟩, ⟨"b", "", 1⟩], some 0, false⟩ := Outcomes.ok_of_toOption (by decide +kernel)
    rw [Catalog.schemaOf, definition]
    rfl
  rw [Catalog.answer_findSchema, Catalog.answer_findTable, other, entries_keyFile]
  cases named : Text.sameName "t" name <;> simp [Except.bind, Catalog.isTable, keyEntry, named, schema]

/-- Through a selection the table has two rows, and the third pointer is passed over. -/
theorem readTable_keyFile {select : TableRef → TableSchema → Except Error Selection} {table : TableRef}
    (other : isCatalogName table.name = false) (named : Text.sameName "t" table.name = true) {selection : Selection}
    (selected : select table keySchema = .ok selection) {first second : Row}
    (short : selection.row keySchema keyShort = .ok first) (long : selection.row keySchema keyLong = .ok second) :
    (Request.readTable select table).answer keyFile 512 =
      .ok ⟨selection.names, [first, second], [.outOfBounds (.cellPointer 2) 0 512]⟩ := by
  have root : keySchema.rootPage = 2 := rfl
  rw [Request.answer_readTable, findSchema_keyFile other, if_pos named]
  simp only [Except.bind, selected, root, records_keyFile, met_keyFile_leaf.2, List.map_cons, List.map_nil, short, long]
  rfl

/-- The column `b` of the table, read twice under two names, has four values, and each time a pointer is passed over. -/
theorem count_agrees_with_rows_key :
    let tables : List TableRef := [⟨"t", some "x"⟩, ⟨"T", none⟩]
    let skipped : List Error := [.outOfBounds (.cellPointer 2) 0 512, .outOfBounds (.cellPointer 2) 0 512]
    ((Request.execute ⟨tables, .columns [⟨none, "b"⟩]⟩).on (.new keyFile 512 true)).1 = .ok ⟨["b"], [⟨some 7, [.null]⟩,
        ⟨some (-1), [.text "x"]⟩, ⟨some 7, [.null]⟩, ⟨some (-1), [.text "x"]⟩], skipped⟩ ∧
      ((Request.execute ⟨tables, .aggregate .countStar⟩).on (.new keyFile 512 false)).1 =
        .ok ⟨["COUNT(*)"], [⟨none, [.int64 4]⟩], skipped⟩ := by
  intro tables skipped
  have onFile (keepPages : Bool) : (Pager.new keyFile 512 keepPages).Over keyFile 512 := Pager.over_smallFile keepPages
  have short : Selection.row ⟨["b"], [.field 1]⟩ keySchema keyShort = .ok ⟨some 7, [.null]⟩ := rfl
  have long : Selection.row ⟨["b"], [.field 1]⟩ keySchema keyLong = .ok ⟨some (-1), [.text "x"]⟩ :=
    Outcomes.ok_of_toOption (by decide +kernel)
  have executed : ((Request.execute ⟨tables, .columns [⟨none, "b"⟩]⟩).on (.new keyFile 512 true)).1 = .ok ⟨["b"],
      [⟨some 7, [.null]⟩, ⟨some (-1), [.text "x"]⟩, ⟨some 7, [.null]⟩, ⟨some (-1), [.text "x"]⟩], skipped⟩ := by
    rw [(Request.execute_byPages _).answer_eq (onFile true), Request.execute_eq]
    show (Request.read _ tables).answer keyFile 512 = _
    rw [Request.answer_read, List.map_cons, List.map_cons, List.map_nil,
      readTable_keyFile (by decide +kernel) (by decide +kernel) rfl short long,
      readTable_keyFile (by decide +kernel) (by decide +kernel) rfl short long]
    rfl
  exact ⟨executed, (count_agrees_with_rows (onFile true) (onFile false) tables (.inr ⟨_, rfl⟩)).1 _ executed⟩

end SqliteReader
