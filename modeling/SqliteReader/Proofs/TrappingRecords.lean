import SqliteReader.Catalog
import SqliteReader.Proofs.TrappingPages

/-!
# Records with traps

The header of a record, its fields and their values, and the entries of the catalog, in steps that may stop. Together
with the steps for varints, file headers and pages they are the whole way from the bytes of a file to its rows, and
none of them ever stops (`decoding_answers`).
-/
namespace SqliteReader.Trapping

/-! ## Record headers -/

/-- `RecordHeader.fieldsFrom` with traps, in at most so many turns of its loop. -/
def fieldsFrom (header : Bytes) (size : Nat) : (turns position offset : Nat) → Trapping (List RecordField)
  | 0, _, _ => trap
  | turns + 1, position, offset => do
    if position < header.size then
      let (raw, used) ← varint header position
      let serialType ← serialType raw
      let next ← addOr offset serialType.size (.outOfBounds .recordField offset size)
      let rest ← fieldsFrom header size turns (← add position used) next
      return ⟨serialType, offset, serialType.size⟩ :: rest
    else return []

/-- `RecordHeader.decode` with traps. -/
def recordHeader (payload : Bytes) : Trapping RecordHeader := do
  let (length, used) ← varint payload 0
  let length := length.toNat
  if payload.size < length then throw (.outOfBounds .recordHeader 0 payload.size)
  if length < used then throw (.corruptedRecord (.headerLength length))
  let header ← slice payload 0 length
  let fields ← fieldsFrom header payload.size (header.size + 1) used length
  return ⟨length, fields⟩

/-- `Record.decode` with traps. -/
def record (rowId : RowId) (payload : Bytes) : Trapping Record := do
  let header ← recordHeader payload
  return ⟨rowId, header, payload⟩

/-- Each turn takes a byte of the header at least. -/
theorem fieldsFrom_eq {header : Bytes} {turns position : Nat} (small : header.size < sizeLimit)
    (enough : header.size - position < turns) (size offset : Nat) :
    fieldsFrom header size turns position offset = answer (RecordHeader.fieldsFrom header size position offset) := by
  have limit : sizeLimit < UInt64.size := by decide
  induction turns generalizing position offset with
  | zero => omega
  | succ turns ih =>
    rw [fieldsFrom]
    by_cases inside : position < header.size
    · rw [if_pos inside, varint_eq small (by omega), Record.fieldsFrom_of_lt inside]
      refine answer_bind ?_
      rintro ⟨raw, used⟩ decoded
      have positive := Varint.pos_of_decode decoded
      have within := Varint.le_of_decode decoded
      dsimp only
      rw [serialType_eq]
      refine answer_bind fun serialType _ => ?_
      rw [addOr]
      by_cases word : offset + serialType.size < UInt64.size
      · have next : ¬ RecordHeader.offsetLimit ≤ offset + serialType.size := Nat.not_le.2 word
        rw [if_pos word, if_neg next, pure_bind, add_eq (by omega), pure_bind, ih (by omega)]
        exact answer_bind fun rest _ => rfl
      · have last : RecordHeader.offsetLimit ≤ offset + serialType.size := Nat.not_lt.1 word
        rw [if_neg word, if_pos last]
        rfl
    · rw [if_neg inside, RecordHeader.fieldsFrom, if_neg inside]
      rfl

theorem recordHeader_eq {payload : Bytes} (small : payload.size < sizeLimit) :
    recordHeader payload = answer (RecordHeader.decode payload) := by
  rw [recordHeader, varint_eq small (by decide), RecordHeader.decode]
  refine answer_bind ?_
  rintro ⟨length, used⟩ -
  dsimp only
  split
  · rfl
  · rename_i inside
    split
    · rfl
    · have sized : (payload.extract 0 length.toNat).size < sizeLimit := by
        rw [Array.size_extract]
        omega
      rw [slice_eq (Nat.zero_le _) (by omega), pure_bind, fieldsFrom_eq sized (by omega)]
      exact answer_bind fun fields _ => rfl

theorem record_eq (rowId : RowId) {payload : Bytes} (small : payload.size < sizeLimit) :
    record rowId payload = answer (Record.decode rowId payload) := by
  rw [record, recordHeader_eq small, Record.decode]
  exact answer_bind fun header _ => rfl

/-! ## Fields -/

/-- `Record.fieldBytes` with traps. -/
def fieldBytes (record : Record) (index : Nat) : Trapping Bytes := do
  let field ← answer (record.field index)
  let size := record.payload.size
  let isLast := (← add index 1) == record.fieldCount
  if field.serialType.isVariable && isLast then
    match record.payload.slice? field.offset size with
    | some bytes => return bytes
    | none => throw (.outOfBounds .lastField field.offset size)
  else
    let outside : Error := .outOfBounds (.field index) field.offset size
    let stop ← addOr field.offset field.size outside
    match record.payload.slice? field.offset stop with
    | some bytes => return bytes
    | none => throw outside

/-- `Record.value` with traps. -/
def value (record : Record) (index : Nat) : Trapping Value := do
  let bytes ← fieldBytes record index
  let field ← item record.header.fields index
  answer ((Record.valueOf field.serialType bytes).mapError fun fault =>
    .corruptedRecord (.invalidText index record.rowId fault))

/-- `Record.values` with traps. -/
def values (record : Record) : Trapping (List Value) := (List.range record.fieldCount).mapM (value record)

/-- `Entry.textField` with traps. -/
def textField (record : Record) (index : Nat) (column : String) : Trapping String := do
  match ← value record index with
  | .text s => return s
  | value => throw (.corruptedRecord (.catalogValue column value))

/-- `Entry.ofRecord` with traps. -/
def entry (record : Record) : Trapping Entry := do
  if record.fieldCount < 5 then
    throw (.corruptedRecord (.catalogFields record.rowId record.fieldCount))
  let rootPage ← answer (Entry.rootOf (← value record 3))
  let sql ← answer (Entry.sqlOf (← value record 4))
  let kind ← textField record 0 "column type"
  let name ← textField record 1 "column name"
  let tableName ← textField record 2 "column tbl_name"
  return ⟨EntryKind.ofWord kind, name, tableName, rootPage, sql⟩

section
variable {record : Record} (small : record.payload.size < sizeLimit) (few : record.fieldCount < sizeLimit)
include small few

/-- A field that is there has a place behind it that is a word. -/
theorem bytesOf_eq {index : Nat} {field : RecordField} (there : record.field index = .ok field) :
    fieldBytes record index = answer (record.bytesOf index field) := by
  have limit : sizeLimit < UInt64.size := by decide
  have below : index < record.fieldCount := (List.getElem?_eq_some_iff.1 (Record.field_eq_ok_iff.1 there)).1
  rw [fieldBytes, there, answer_pure, pure_bind, add_eq (by omega), pure_bind, Record.bytesOf]
  dsimp only
  split
  · cases record.payload.slice? field.offset record.payload.size <;> rfl
  · rw [addOr]
    by_cases word : field.offset + field.size < UInt64.size
    · rw [if_pos word, pure_bind]
      cases record.payload.slice? field.offset (field.offset + field.size) <;> rfl
    · rw [if_neg word, Bytes.slice?, if_neg (by omega)]
      rfl

theorem fieldBytes_eq (index : Nat) : fieldBytes record index = answer (record.fieldBytes index) := by
  cases there : record.field index with
  | error error =>
    rw [fieldBytes, Record.fieldBytes, there]
    rfl
  | ok field =>
    rw [bytesOf_eq small few there, Record.fieldBytes, there]
    rfl

theorem value_eq (index : Nat) : value record index = answer (record.value index) := by
  cases there : record.field index with
  | error error =>
    rw [value, fieldBytes, Record.value, there]
    rfl
  | ok field =>
    rw [value, bytesOf_eq small few there, Record.value, there]
    refine answer_bind fun bytes _ => ?_
    rw [item, Record.field_eq_ok_iff.1 there, pure_bind]

theorem values_eq : values record = answer record.values := mapM_answer _ fun index _ => value_eq small few index

theorem textField_eq (index : Nat) (column : String) :
    textField record index column = answer (Entry.textField record index column) := by
  rw [textField, value_eq small few, Entry.textField]
  refine answer_bind fun value _ => ?_
  cases value <;> rfl

theorem entry_eq : entry record = answer (Entry.ofRecord record) := by
  unfold entry Entry.ofRecord
  split
  · rfl
  · rw [value_eq small few]
    refine answer_bind fun root _ => answer_bind fun rootPage _ => ?_
    rw [value_eq small few]
    refine answer_bind fun statement _ => answer_bind fun sql _ => ?_
    rw [textField_eq small few, textField_eq small few, textField_eq small few]
    exact answer_bind fun kind _ => answer_bind fun name _ => answer_bind fun tableName _ => rfl

end

/-- A decoded record has fewer fields than its payload has bytes. -/
theorem few_of_decode {rowId : RowId} {payload : Bytes} {record : Record} (small : payload.size < sizeLimit)
    (decoded : Record.decode rowId payload = .ok record) :
    record.payload.size < sizeLimit ∧ record.fieldCount < sizeLimit := by
  obtain ⟨header, read, same⟩ := Outcomes.ok_of_bind decoded
  cases same
  obtain ⟨inside, fewer, -⟩ := Record.of_decode read
  exact ⟨small, by rw [Record.fieldCount]; dsimp only; omega⟩

/-- The way from the bytes of a file to its rows answers, with a result or an error, whatever the bytes are. Nothing is
taken from outside a run of bytes and no number is too large for a word: the file header and the place of a page in the
file; the header, the pointers and the cells of a page; the header of a payload, and the fields, the values and the
catalog entry of a record; varints at every offset, and the numbers of serial types. -/
theorem decoding_answers :
    (∀ bytes offset, bytes.size < sizeLimit → offset < UInt64.size →
      varint bytes offset = answer (Varint.decode bytes offset) ∧
        signedVarint bytes offset = answer (Varint.decodeSigned bytes offset)) ∧
    (∀ number, serialType number = answer (SerialType.ofRaw number) ∧
      ∀ read, SerialType.ofRaw number = .ok read → rawOf read = answer (.ok read.raw)) ∧
    (∀ file, fileHeader file = answer (FileHeader.ofBytes file)) ∧
    (∀ pager number, pager.pageSize < UInt32.size → loadPage pager number = some (pager.read number)) ∧
    (∀ number data, data.size < sizeLimit →
      pageHeader number data = answer (PageHeader.read number data) ∧ page number data = answer (Page.read number data) ∧
        ∀ read, Page.read number data = .ok read →
          leafCells read = answer (.ok read.leafCells) ∧ interiorCells read = answer (.ok read.interiorCells) ∧
            children read = answer (.ok read.children)) ∧
    ∀ rowId payload, payload.size < sizeLimit →
      recordHeader payload = answer (RecordHeader.decode payload) ∧
        record rowId payload = answer (Record.decode rowId payload) ∧
        ∀ read, Record.decode rowId payload = .ok read →
          (∀ index, fieldBytes read index = answer (read.fieldBytes index) ∧ value read index = answer (read.value index)) ∧
            values read = answer read.values ∧ entry read = answer (Entry.ofRecord read) := by
  refine ⟨?_, ?_, fileHeader_eq, fun pager number small => loadPage_eq small number, ?_, ?_⟩
  · intro bytes offset small start
    exact ⟨varint_eq small start, signedVarint_eq small start⟩
  · intro number
    refine ⟨serialType_eq number, fun read decoded => rawOf_eq ?_⟩
    rw [SerialType.raw_of_ofRaw decoded]
    exact number.toNat_lt
  · intro number data small
    refine ⟨pageHeader_eq number small, page_eq number small, fun read decoded => ?_⟩
    have fits := fits_of_read small decoded
    exact ⟨leafCells_eq fits, interiorCells_eq fits, children_eq fits⟩
  · intro rowId payload small
    refine ⟨recordHeader_eq small, record_eq rowId small, fun read decoded => ?_⟩
    obtain ⟨small, few⟩ := few_of_decode small decoded
    exact ⟨fun index => ⟨fieldBytes_eq small few index, value_eq small few index⟩, values_eq small few, entry_eq small few⟩

/-- A payload with the greatest serial type there is, a text of half as many bytes, and one byte behind it. -/
def greatestPayload : Bytes := #[10, 255, 255, 255, 255, 255, 255, 255, 255, 255, 7]

/-- The greatest serial type is read, gives its number back, and its field is answered, as are fields that are not
there. -/
theorem decoding_answers_greatest : ∃ read, Record.decode 1 greatestPayload = .ok read ∧
    fieldBytes read 0 = answer (read.fieldBytes 0) ∧ value read 5 = answer (read.value 5) ∧
    varint greatestPayload 18446744073709551615 = answer (Varint.decode greatestPayload 18446744073709551615) ∧
    rawOf (.text 9223372036854775801) = answer (.ok 18446744073709551615) := by
  obtain ⟨varints, numbers, -, -, -, records⟩ := decoding_answers
  have small : greatestPayload.size < sizeLimit := by decide
  obtain ⟨-, decoded, fields⟩ := records 1 greatestPayload small
  have answered : record 1 greatestPayload = answer (.ok ⟨1, ⟨10, [⟨.text 9223372036854775801, 10, 9223372036854775801⟩]⟩,
      greatestPayload⟩) := rfl
  have read := Option.some.inj (decoded.symm.trans answered)
  obtain ⟨ofField, -⟩ := fields _ read
  refine ⟨_, read, (ofField 0).1, (ofField 5).2, ?_, ?_⟩
  · exact (varints greatestPayload 18446744073709551615 small (by decide)).1
  · exact (numbers 18446744073709551615).2 (.text 9223372036854775801) rfl

end SqliteReader.Trapping
