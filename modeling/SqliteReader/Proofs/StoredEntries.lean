import SqliteReader.Proofs.CatalogRows

/-!
# Entries written and read back

A record gives an entry exactly when its first five fields describe one (`Describes`). The row that such an entry is
written as gives the entry back (`entry_survives_storage`), although it may differ from the record that the entry was
read from in the width of its root page and has no field behind the fifth: the texts are no longer than they were, so
they still fit.
-/
namespace SqliteReader

namespace EntryKind

/-- A word that is known is read as its own kind. -/
theorem ofWord_ne_other (word : String) {known : String} (inside : known ∈ ["table", "index", "view", "trigger"]) :
    ofWord word ≠ .other known := by
  intro same
  obtain rfl : word = known := by rw [← word_ofWord word, same, EntryKind.word]
  simp only [List.mem_cons, List.not_mem_nil, or_false] at inside
  rcases inside with rfl | rfl | rfl | rfl <;> cases same

end EntryKind

namespace Entry

/-- A record whose first five fields describe an entry; fields behind them may hold anything. -/
structure Describes (record : Record) : Prop where
  enough : 5 ≤ record.fieldCount
  texts : ∀ column < 3, ∃ text, record.value column = .ok (.text text)
  root : ∃ root, record.value 3 = .ok root ∧
    (root = .null ∨ ∃ page, root.toInt? = some page ∧ 0 ≤ page ∧ page < 2 ^ 32)
  statement : ∃ statement, record.value 4 = .ok statement ∧ (statement = .null ∨ ∃ sql, statement = .text sql)

theorem rootOf_isOk_iff (root : Value) : (∃ page, rootOf root = .ok page) ↔
    root = .null ∨ ∃ page, root.toInt? = some page ∧ 0 ≤ page ∧ page < 2 ^ 32 := by
  constructor
  · rintro ⟨page, read⟩
    rcases root_of_rootOf read with held | ⟨rfl, -⟩
    · have small := page.toNat_lt
      exact .inr ⟨_, held, Int.natCast_nonneg _, by omega⟩
    · exact .inl rfl
  · rintro (rfl | ⟨page, held, least, most⟩)
    · exact ⟨0, rfl⟩
    · have inside : 0 ≤ page ∧ page < UInt32.size := ⟨least, most⟩
      exact ⟨UInt32.ofNat page.toNat, by simp only [rootOf, held, inside, and_self, if_true]⟩

theorem sqlOf_isOk_iff (statement : Value) :
    (∃ sql, sqlOf statement = .ok sql) ↔ statement = .null ∨ ∃ sql, statement = .text sql := by
  cases statement <;> simp [sqlOf]

/-- An entry is made of exactly the records that describe one. -/
theorem ofRecord_isOk_iff (record : Record) : (∃ entry, ofRecord record = .ok entry) ↔ Describes record := by
  simp only [ofRecord_eq_ok_iff]
  constructor
  · rintro ⟨entry, word, root, statement, made⟩
    refine ⟨made.enough, fun column below => ?_, ⟨root, made.rootThere, (rootOf_isOk_iff root).1 ⟨_, made.rootPage⟩⟩,
      ⟨statement, made.sqlThere, (sqlOf_isOk_iff statement).1 ⟨_, made.sql⟩⟩⟩
    match column, below with
    | 0, _ => exact ⟨_, made.kindThere⟩
    | 1, _ => exact ⟨_, made.nameThere⟩
    | 2, _ => exact ⟨_, made.tableThere⟩
  · rintro ⟨enough, texts, ⟨root, rootThere, page⟩, statement, sqlThere, optional⟩
    obtain ⟨word, kindThere⟩ := texts 0 (by decide)
    obtain ⟨name, nameThere⟩ := texts 1 (by decide)
    obtain ⟨tableName, tableThere⟩ := texts 2 (by decide)
    obtain ⟨rootPage, pageRead⟩ := (rootOf_isOk_iff root).2 page
    obtain ⟨sql, sqlRead⟩ := (sqlOf_isOk_iff statement).2 optional
    exact ⟨⟨.ofWord word, name, tableName, rootPage, sql⟩, word, root, statement, enough, kindThere, nameThere,
      tableThere, rootThere, sqlThere, rfl, pageRead, sqlRead⟩

/-- The texts of an entry were read from behind a header with a byte for its length and one for each of five fields. -/
theorem sum_ownSize_toValues_le {rowId : RowId} {payload : Bytes} {record : Record} {entry : Entry}
    (decoded : Record.decode rowId payload = .ok record) (made : ofRecord record = .ok entry) :
    (entry.toValues.map Value.ownSize).sum + 6 ≤ payload.size := by
  obtain ⟨enough, values, root, spells, held⟩ := fields_of_ofRecord made
  obtain ⟨header, found, same⟩ := Outcomes.ok_of_bind decoded
  cases same
  obtain ⟨inside, few, adjacent⟩ := Record.of_decode found
  have five : values.length = 5 := by rw [spells.fields]; rfl
  have reads (column : Nat) (below : column < values.length) :
      Record.value ⟨rowId, header, payload⟩ (0 + column) = .ok values[column] := by
    rw [Nat.zero_add]
    exact held column _ (List.getElem?_eq_getElem below)
  obtain ⟨-, -, owns⟩ := Record.sum_size_le 0 List.drop_zero adjacent inside (five ▸ enough) reads
  have texts : (entry.toValues.map Value.ownSize).sum ≤ (values.map Value.ownSize).sum := by
    rw [spells.fields]
    simp [toValues, Value.ownSize]
  simp only [Record.fieldCount] at enough owns
  omega

end Entry

/-- An entry made of a record is never of an unknown kind with a known word, and the row that it is written as gives it
back; no payload held in memory has `2 ^ 63` bytes. A record that does not describe an entry is rejected: it must have
five fields, of which the first three are texts, the fourth is null or a number of 32 bits without a sign, and the fifth
is null or a text. Every other record gives an entry. -/
theorem entry_survives_storage :
    (∀ (rowId : RowId) (payload : Bytes) (record : Record) (entry : Entry),
      Record.decode rowId payload = .ok record → Entry.ofRecord record = .ok entry →
        (∀ word ∈ ["table", "index", "view", "trigger"], entry.kind ≠ .other word) ∧
        (payload.size < 2 ^ 63 → ∀ newId, ∃ again,
          Record.decode newId (Record.encode entry.toValues) = .ok again ∧ Entry.ofRecord again = .ok entry)) ∧
    ∀ record : Record, (∃ error, Entry.ofRecord record = .error error) ↔ ¬ Entry.Describes record := by
  constructor
  · intro rowId payload record entry decoded made
    obtain ⟨word, _, _, parts⟩ := Entry.ofRecord_eq_ok_iff.1 made
    have known : EntryKind.ofWord entry.kind.word = entry.kind := by rw [parts.kind, EntryKind.word_ofWord]
    refine ⟨fun other inside => ?_, fun short newId => ?_⟩
    · rw [parts.kind]
      exact EntryKind.ofWord_ne_other word inside
    · have texts := Entry.sum_ownSize_toValues_le decoded made
      exact Entry.again_of_room newId known (by omega)
  · intro record
    rw [← Entry.ofRecord_isOk_iff]
    cases Entry.ofRecord record <;> simp

/-- A row of seven fields: the number of its root page takes no bytes, it has no statement, and the text behind these is
not one. -/
def widePayload : Bytes := #[8, 23, 15, 15, 9, 0, 17, 1] ++ "indexio".toUTF8.data ++ #[255, 255, 3]

/-- The entry comes back from a row of five fields with a number of eight bytes. Where the root page is below zero the
record gives no entry. -/
theorem entry_survives_storage_wide :
    (∃ again, Record.decode 9 (Record.encode (Entry.toValues ⟨.index, "i", "o", 1, none⟩)) = .ok again ∧
      Entry.ofRecord again = .ok ⟨.index, "i", "o", 1, none⟩) ∧
    ∃ record, Record.decode 1 (Record.encode [.text "table", .text "t", .text "t", .int8 (-1), .null]) = .ok record ∧
      ∃ error, Entry.ofRecord record = .error error := by
  obtain ⟨survives, rejected⟩ := entry_survives_storage
  constructor
  · have read : (Record.decode 9 widePayload).bind Entry.ofRecord = .ok ⟨.index, "i", "o", 1, none⟩ :=
      Outcomes.ok_of_toOption (by decide +kernel)
    obtain ⟨record, decoded, made⟩ := Outcomes.ok_of_bind read
    exact (survives 9 widePayload record _ decoded made).2 (by decide +kernel) 9
  · have read : (Record.decode 1 (Record.encode [.text "table", .text "t", .text "t", .int8 (-1), .null])).bind
        (·.value 3) = .ok (.int8 (-1)) := Outcomes.ok_of_toOption (by decide +kernel)
    obtain ⟨record, decoded, held⟩ := Outcomes.ok_of_bind read
    refine ⟨record, decoded, (rejected record).2 fun describes => ?_⟩
    obtain ⟨root, there, page⟩ := describes.root
    cases held.symm.trans there
    obtain missing | ⟨page, number, least, -⟩ := page
    · cases missing
    · cases number
      exact absurd least (by decide)

end SqliteReader
