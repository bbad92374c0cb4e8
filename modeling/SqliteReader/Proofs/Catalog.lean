import SqliteReader.Catalog
import SqliteReader.Proofs.Record
import SqliteReader.Proofs.Walk

/-!
# Catalog rows written and read back

The row that an entry is written as gives the entry back (`ofRecord_toValues`), and the entries of a catalog
are those of its rows (`on_entries`).
-/
namespace SqliteReader

/-- A kind that a word names is told by this word. -/
theorem EntryKind.word_ofWord (word : String) : (ofWord word).word = word := by
  unfold ofWord
  repeat' split
  all_goals simp_all [EntryKind.word]

namespace Entry

theorem toInt_ofNat_toNat (page : PageNumber) : (Int64.ofNat page.toNat).toInt = page.toNat := by
  have small := page.toNat_lt
  rw [Int64.toInt_ofNat', Int.bmod_eq_of_le (by simp) (by simp; omega)]

theorem rootOf_int64 (page : PageNumber) : rootOf (.int64 (Int64.ofNat page.toNat)) = .ok page := by
  have small := page.toNat_lt
  have inside : (0 : Int) ≤ page.toNat ∧ (page.toNat : Int) < UInt32.size := by
    simp only [UInt32.size]
    omega
  simp only [rootOf, Value.toInt?, toInt_ofNat_toNat, inside, and_self, if_true, Int.toNat_natCast, UInt32.ofNat_toNat]

theorem sqlOf_toValue (sql : Option String) : sqlOf ((sql.map Value.text).getD .null) = .ok sql := by
  cases sql <;> rfl

theorem stored_toValues (entry : Entry) : entry.toValues.map Value.stored = entry.toValues := by
  cases sql : entry.sql <;> simp [toValues, sql, Value.stored]

theorem textField_eq_ok_iff {record : Record} {index : Nat} {column text : String} :
    textField record index column = .ok text ↔ record.value index = .ok (.text text) := by
  constructor
  · intro read
    obtain ⟨value, found, done⟩ := Outcomes.ok_of_bind read
    cases value <;> cases done
    exact found
  · intro found
    rw [textField, found]
    rfl

/-- The entry is made of the first five values of the record. -/
structure MadeOf (record : Record) (entry : Entry) (word : String) (root statement : Value) : Prop where
  enough : 5 ≤ record.fieldCount
  kindThere : record.value 0 = .ok (.text word)
  nameThere : record.value 1 = .ok (.text entry.name)
  tableThere : record.value 2 = .ok (.text entry.tableName)
  rootThere : record.value 3 = .ok root
  sqlThere : record.value 4 = .ok statement
  kind : entry.kind = .ofWord word
  rootPage : rootOf root = .ok entry.rootPage
  sql : sqlOf statement = .ok entry.sql

theorem ofRecord_eq_ok_iff {record : Record} {entry : Entry} :
    ofRecord record = .ok entry ↔ ∃ word root statement, MadeOf record entry word root statement := by
  constructor
  · intro made
    unfold ofRecord at made
    split at made
    · cases made
    · next enough =>
      obtain ⟨root, rootThere, made⟩ := Outcomes.ok_of_bind made
      obtain ⟨rootPage, rootRead, made⟩ := Outcomes.ok_of_bind made
      obtain ⟨statement, statementThere, made⟩ := Outcomes.ok_of_bind made
      obtain ⟨sql, sqlRead, made⟩ := Outcomes.ok_of_bind made
      obtain ⟨word, kind, made⟩ := Outcomes.ok_of_bind made
      obtain ⟨name, named, made⟩ := Outcomes.ok_of_bind made
      obtain ⟨tableName, table, made⟩ := Outcomes.ok_of_bind made
      cases made
      exact ⟨word, root, statement, Nat.not_lt.1 enough, textField_eq_ok_iff.1 kind, textField_eq_ok_iff.1 named,
        textField_eq_ok_iff.1 table, rootThere, statementThere, rfl, rootRead, sqlRead⟩
  · rintro ⟨word, root, statement, made⟩
    rw [ofRecord, if_neg (Nat.not_lt.2 made.enough), made.rootThere, made.sqlThere]
    simp only [bind, Except.bind, made.rootPage, made.sql, textField_eq_ok_iff.2 made.kindThere,
      textField_eq_ok_iff.2 made.nameThere, textField_eq_ok_iff.2 made.tableThere, ← made.kind]
    rfl

/-- The values of an entry are read as this entry. -/
theorem ofRecord_toValues {record : Record} {entry : Entry} (read : record.values = .ok entry.toValues)
    (known : EntryKind.ofWord entry.kind.word = entry.kind) : ofRecord record = .ok entry := by
  obtain ⟨count, values⟩ := Record.of_values read
  have five : entry.toValues.length = 5 := rfl
  exact ofRecord_eq_ok_iff.2 ⟨_, _, _, by omega, values 0 (by omega), values 1 (by omega), values 2 (by omega),
    values 3 (by omega), values 4 (by omega), known.symm, rootOf_int64 entry.rootPage, sqlOf_toValue entry.sql⟩

/-- Beside its page number, which is eight bytes long, the values of an entry are its texts. -/
theorem sum_size_toValues (entry : Entry) :
    (entry.toValues.map Value.size).sum = (entry.toValues.map Value.ownSize).sum + 8 := by
  cases sql : entry.sql <;> simp [toValues, sql, Value.size, Value.ownSize] <;> omega

/-- The row that an entry is written as gives it back as long as its texts have lengths that a serial type can give. -/
theorem again_of_room (rowId : RowId) {entry : Entry} (known : EntryKind.ofWord entry.kind.word = entry.kind)
    (room : (entry.toValues.map Value.ownSize).sum + 7 ≤ 2 ^ 63) :
    ∃ again, Record.decode rowId (Record.encode entry.toValues) = .ok again ∧ ofRecord again = .ok entry := by
  have short (value : Value) (inside : value ∈ entry.toValues) : value.ownSize + 7 ≤ 2 ^ 63 := by
    have own := Record.ownSize_le_sum inside
    omega
  have types := Record.size_typeBytes_le_maxLength entry.toValues
  have five : entry.toValues.length = 5 := rfl
  rw [five, Varint.maxLength] at types
  have sizes := sum_size_toValues entry
  obtain ⟨again, decoded, -, read⟩ := Record.stored_of_room rowId short (by omega)
  rw [stored_toValues] at read
  exact ⟨again, decoded, ofRecord_toValues read known⟩

end Entry

namespace Catalog

/-- The row that an entry is written as, when it is no larger than a page may be, is this entry. -/
theorem entryOf_encode {entry : Entry} (rowId : RowId) (payloadSize : UInt64)
    (known : EntryKind.ofWord entry.kind.word = entry.kind)
    (small : (Record.encode entry.toValues).size ≤ 65536) :
    entryOf ⟨rowId, payloadSize, Record.encode entry.toValues⟩ = .ok entry := by
  have bodies : (entry.toValues.map Value.size).sum ≤ (Record.encode entry.toValues).size := by
    rw [Record.encode, Array.size_append, Record.size_bodyBytes]
    omega
  have sizes := Entry.sum_size_toValues entry
  obtain ⟨record, decoded, made⟩ := Entry.again_of_room rowId known (by omega)
  rw [entryOf, Record.ofCell, decoded]
  exact made

/-- The entries of a catalog whose rows can all be read, and all hold entries. -/
theorem on_entries {pager pager' : Pager} {cells : List LeafCell} {entries : List Entry}
    (scanned : (scanTable catalogRoot).on pager = (.ok ⟨cells, []⟩, pager'))
    (read : cells.map entryOf = entries.map .ok) : (Catalog.entries.on pager).1 = .ok ⟨entries, []⟩ := by
  rw [Catalog.entries, Reading.on_bind, scanned]
  simp only [Reading.on_pure, read, Outcomes.ofOutcomes_eq, Outcomes.results_map_ok, Outcomes.failures_map_ok,
    List.append_nil]

end Catalog
end SqliteReader
