import SqliteReader.Proofs.RecordHeader

/-!
# The bytes of the fields

Where the bytes of a field begin and end is told by `stopOf`, and the field has bytes when both places lie in the
payload (`fieldBytes_eq_ok_iff`). The fields lie one behind the other, so those that have bytes are the first ones, and
their bytes joined are one run of the payload behind its header (`readable_from`, `fields_tile`).
-/
namespace SqliteReader.Record

/-- The field is a text or a blob and comes last. -/
def EndsOpen (record : Record) (index : Nat) (field : RecordField) : Prop :=
  field.serialType.isVariable = true ∧ index + 1 = record.fieldCount

instance (record : Record) (index : Nat) (field : RecordField) : Decidable (record.EndsOpen index field) :=
  inferInstanceAs (Decidable (_ ∧ _))

/-- Where the bytes of a field end, if they lie in the payload. -/
def stopOf (record : Record) (index : Nat) (field : RecordField) : Nat :=
  if record.EndsOpen index field then record.payload.size else field.offset + field.size

theorem bytesOf_eq_ok_iff {record : Record} {index : Nat} {field : RecordField} {bytes : Bytes} :
    record.bytesOf index field = .ok bytes ↔ field.offset ≤ record.stopOf index field ∧
      record.stopOf index field ≤ record.payload.size ∧
      bytes = record.payload.extract field.offset (record.stopOf index field) := by
  have last : (field.serialType.isVariable && index + 1 == record.fieldCount) = true ↔ record.EndsOpen index field := by
    rw [Bool.and_eq_true, beq_iff_eq, EndsOpen]
  rw [← Bytes.slice?_eq_some_iff]
  unfold bytesOf stopOf
  dsimp only
  by_cases ends : record.EndsOpen index field
  · rw [if_pos (last.2 ends), if_pos ends]
    split <;> simp [*]
  · rw [if_neg fun isLast => ends (last.1 isLast), if_neg ends]
    split <;> simp [*]

theorem fieldBytes_eq_ok_iff {record : Record} {index : Nat} {bytes : Bytes} :
    record.fieldBytes index = .ok bytes ↔ ∃ field, record.header.fields[index]? = some field ∧
      field.offset ≤ record.stopOf index field ∧ record.stopOf index field ≤ record.payload.size ∧
      bytes = record.payload.extract field.offset (record.stopOf index field) := by
  constructor
  · intro read
    obtain ⟨field, there, read⟩ := Outcomes.ok_of_bind read
    exact ⟨field, field_eq_ok_iff.1 there, bytesOf_eq_ok_iff.1 read⟩
  · rintro ⟨field, there, place⟩
    rw [fieldBytes, field_eq_ok_iff.2 there]
    exact bytesOf_eq_ok_iff.2 place

/-- Fields one behind the other start behind the first of them. -/
theorem Adjacent.le_offset {offset index : Nat} {fields : List RecordField} {field : RecordField}
    (adjacent : Adjacent offset fields) (there : fields[index]? = some field) : offset ≤ field.offset := by
  induction fields generalizing offset index with
  | nil => simp at there
  | cons first rest ih =>
    obtain ⟨starts, -, adjacent⟩ := adjacent
    cases index with
    | zero =>
      cases there
      omega
    | succ index =>
      have later := ih adjacent there
      omega

section
variable {record : Record} {index offset : Nat} {field : RecordField} {rest : List RecordField}
  (suffix : record.header.fields.drop index = field :: rest)
include suffix

theorem getElem?_of_drop : record.header.fields[index]? = some field := by
  rw [← Nat.add_zero index, ← List.getElem?_drop, suffix, List.getElem?_cons_zero]

theorem drop_of_drop : record.header.fields.drop (index + 1) = rest := by
  rw [← List.drop_drop, suffix, List.drop_one, List.tail_cons]

theorem endsOpen_iff_of_drop : record.EndsOpen index field ↔ field.serialType.isVariable = true ∧ rest = [] := by
  have count := congrArg List.length suffix
  rw [List.length_drop, List.length_cons] at count
  rw [EndsOpen, fieldCount, ← List.length_eq_zero_iff]
  refine and_congr_right fun _ => ?_
  omega

/-- A field with another one behind it ends where that one starts. -/
theorem stopOf_of_more (more : rest ≠ []) : record.stopOf index field = field.offset + field.size := by
  rw [stopOf, if_neg fun last => more ((endsOpen_iff_of_drop suffix).1 last).2]

/-- Behind a field whose bytes do not end in the payload no field has bytes, not even one that takes none. -/
theorem no_bytes_from (adjacent : Adjacent offset (field :: rest))
    (outside : ¬ (field.offset ≤ record.stopOf index field ∧ record.stopOf index field ≤ record.payload.size))
    (place : Nat) (bytes : Bytes) : record.fieldBytes (index + place) ≠ .ok bytes := by
  intro read
  obtain ⟨other, found, order, stop, -⟩ := fieldBytes_eq_ok_iff.1 read
  rw [← List.getElem?_drop, suffix] at found
  cases place with
  | zero =>
    cases found
    exact outside ⟨order, stop⟩
  | succ place =>
    obtain ⟨starts, -, adjacent⟩ := adjacent
    rw [List.getElem?_cons_succ] at found
    have more : rest ≠ [] := by
      rintro rfl
      simp at found
    have far := adjacent.le_offset found
    have here := stopOf_of_more suffix more
    omega

end

/-- Of the fields from an index on, the first ones have bytes, up to one that does not end in the payload, and their
bytes joined are a run of the payload. -/
theorem readable_from {record : Record} (index : Nat) {offset : Nat} {fields : List RecordField}
    (suffix : record.header.fields.drop index = fields) (adjacent : Adjacent offset fields)
    (inside : offset ≤ record.payload.size) :
    ∃ runs : List Bytes, runs.length ≤ fields.length ∧
      (∀ place bytes, record.fieldBytes (index + place) = .ok bytes ↔ runs[place]? = some bytes) ∧
      record.payload.Holds offset (Bytes.concat runs) ∧
      (runs.length = fields.length → ∀ last, fields.getLast? = some last → last.serialType.isVariable = true →
        offset + (Bytes.concat runs).size = record.payload.size) := by
  induction fields generalizing index offset with
  | nil =>
    refine ⟨[], Nat.le_refl _, fun place bytes => ?_, Bytes.holds_iff.2 ⟨inside, by simp⟩, by simp⟩
    rw [fieldBytes_eq_ok_iff, ← List.getElem?_drop, suffix]
    simp
  | cons field rest ih =>
    by_cases ends : field.offset ≤ record.stopOf index field ∧ record.stopOf index field ≤ record.payload.size
    · have there := getElem?_of_drop suffix
      obtain ⟨rfl, -, adjacent⟩ := adjacent
      -- Where the bytes of this field end the next one starts, if there is one.
      have behind : Adjacent (record.stopOf index field) rest := by
        cases rest with
        | nil => trivial
        | cons next rest =>
          rw [stopOf_of_more suffix (List.cons_ne_nil _ _)]
          exact adjacent
      obtain ⟨runs, few, reads, held, whole⟩ := ih (index + 1) (drop_of_drop suffix) behind ends.2
      have run := Bytes.holds_extract ends.1 ends.2
      have size : field.offset + (record.payload.extract field.offset (record.stopOf index field)).size =
          record.stopOf index field := by
        rw [Array.size_extract]
        omega
      refine ⟨record.payload.extract field.offset (record.stopOf index field) :: runs, by simpa using few, ?_, ?_, ?_⟩
      · intro place bytes
        cases place with
        | zero =>
          rw [Nat.add_zero, List.getElem?_cons_zero, Option.some.injEq, @eq_comm _ _ bytes, fieldBytes_eq_ok_iff]
          simp only [there, Option.some.injEq, exists_eq_left', ends, true_and]
        | succ place => rw [List.getElem?_cons_succ, ← reads, Nat.add_assoc, Nat.add_comm 1]
      · rw [Bytes.concat_cons, Bytes.holds_append, size]
        exact ⟨run, held⟩
      · intro all last isLast own
        rw [Bytes.concat_cons, Array.size_append, ← Nat.add_assoc, size]
        simp only [List.length_cons, Nat.add_right_cancel_iff] at all
        cases rest with
        | nil =>
          cases isLast
          rw [List.length_eq_zero_iff.1 all, stopOf, if_pos ((endsOpen_iff_of_drop suffix).2 ⟨own, rfl⟩)]
          rfl
        | cons next rest => exact whole all last (by rwa [List.getLast?_cons_cons] at isLast) own
    · refine ⟨[], Nat.zero_le _, fun place bytes => ?_, Bytes.holds_iff.2 ⟨inside, by simp⟩, by simp⟩
      simp [no_bytes_from suffix adjacent ends place bytes]

/-- The bytes of a field are those from its offset on, as many as it takes, and of a text or a blob that comes last all
that are left. The fields that have bytes are the first ones, and their bytes joined are one run of the payload behind
its header; it ends with the payload when all fields have bytes and a text or a blob comes last. -/
theorem fields_tile {rowId : RowId} {payload : Bytes} {record : Record} (decoded : decode rowId payload = .ok record) :
    (∀ index field, record.header.fields[index]? = some field → ∀ bytes,
      (record.EndsOpen index field → (record.fieldBytes index = .ok bytes ↔
        field.offset ≤ payload.size ∧ bytes = payload.extract field.offset payload.size)) ∧
      (¬ record.EndsOpen index field → (record.fieldBytes index = .ok bytes ↔
        field.offset + field.size ≤ payload.size ∧
          bytes = payload.extract field.offset (field.offset + field.size)))) ∧
    ∃ (runs : List Bytes) (stop : Nat), runs.length ≤ record.fieldCount ∧
      (∀ index, (∃ bytes, record.fieldBytes index = .ok bytes) ↔ index < runs.length) ∧
      (∀ index bytes, runs[index]? = some bytes → record.fieldBytes index = .ok bytes) ∧
      record.header.length ≤ stop ∧ stop ≤ payload.size ∧
      Bytes.concat runs = payload.extract record.header.length stop ∧
      (runs.length = record.fieldCount → ∀ last, record.header.fields.getLast? = some last →
        last.serialType.isVariable = true → stop = payload.size) := by
  obtain ⟨header, found, same⟩ := Outcomes.ok_of_bind decoded
  cases same
  obtain ⟨inside, -, adjacent⟩ := of_decode found
  constructor
  · intro index field there bytes
    constructor
    · intro ends
      simp only [fieldBytes_eq_ok_iff, there, Option.some.injEq, exists_eq_left', stopOf, if_pos ends]
      simp
    · intro fixed
      simp only [fieldBytes_eq_ok_iff, there, Option.some.injEq, exists_eq_left', stopOf, if_neg fixed]
      simp
  · obtain ⟨runs, few, reads, held, whole⟩ := @readable_from ⟨rowId, header, payload⟩ 0 _ _ List.drop_zero adjacent inside
    simp only [Nat.zero_add] at reads
    refine ⟨runs, header.length + (Bytes.concat runs).size, few, ?_, fun index bytes => (reads index bytes).2,
      Nat.le_add_right _ _, held.le_size, held.extract_eq.symm, whole⟩
    intro index
    simp only [reads]
    constructor
    · rintro ⟨bytes, there⟩
      exact (List.getElem?_eq_some_iff.1 there).1
    · intro below
      exact ⟨_, List.getElem?_eq_getElem below⟩

/-- A blob of three bytes of which one is there, between fields that have theirs and one that takes none. -/
def cutPayload : Bytes := #[5, 1, 15, 18, 8, 42, 97, 1]

/-- The field that takes none has no bytes either. A text that comes last has all that are left, also when it says that
it takes none. -/
theorem fields_tile_cut :
    (∃ record, decode 1 cutPayload = .ok record ∧ record.fieldBytes 1 = .ok #[97] ∧
      ¬ ∃ bytes, record.fieldBytes 3 = .ok bytes) ∧
    ∃ record, decode 1 #[2, 13, 97, 98] = .ok record ∧ record.fieldBytes 0 = .ok #[97, 98] := by
  constructor
  · have decoded : decode 1 cutPayload =
        .ok ⟨1, ⟨5, [⟨.int8, 5, 1⟩, ⟨.text 1, 6, 1⟩, ⟨.blob 3, 7, 3⟩, ⟨.zero, 10, 0⟩]⟩, cutPayload⟩ := by decide +kernel
    obtain ⟨places, runs, stop, -, readable, -⟩ := fields_tile decoded
    have text := ((places 1 ⟨.text 1, 6, 1⟩ rfl #[97]).2 (by decide)).2 ⟨by decide, by decide⟩
    have short : ¬ 2 < runs.length := by
      intro below
      obtain ⟨bytes, read⟩ := (readable 2).2 below
      have fits := ((places 2 ⟨.blob 3, 7, 3⟩ rfl bytes).2 (by decide)).1 read
      exact absurd fits.1 (by decide)
    refine ⟨_, decoded, text, fun given => ?_⟩
    have below := (readable 3).1 given
    omega
  · have decoded : decode 1 #[2, 13, 97, 98] = .ok ⟨1, ⟨2, [⟨.text 0, 2, 0⟩]⟩, #[2, 13, 97, 98]⟩ := by decide +kernel
    obtain ⟨places, -⟩ := fields_tile decoded
    exact ⟨_, decoded, ((places 0 ⟨.text 0, 2, 0⟩ rfl #[97, 98]).1 (by decide)).2 ⟨by decide, by decide⟩⟩

end SqliteReader.Record
