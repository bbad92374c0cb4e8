import Mathlib.Algebra.Order.BigOperators.Group.List
import SqliteReader.Proofs.Partial
import SqliteReader.Proofs.RecordFields
import SqliteReader.Proofs.VarintForms

/-!
# Records written and read back

A value comes back from its record as `Value.stored` says: as it was, except for the 24 and 48 bit numbers
that are too large for their width. What a record reads to has no such numbers in it, so it survives being
written and read again.
-/
namespace SqliteReader

namespace Value

/-- The value that a record gives back: a number of 24 or 48 bits is the one its low bits write. -/
def stored : Value → Value
  | int24 n => int24 (Int32.ofInt (n.toInt.bmod (2 ^ 24)))
  | int48 n => int48 (Int64.ofInt (n.toInt.bmod (2 ^ 48)))
  | value => value

/-- Whether the number of a 24 or 48 bit value has no more bits than that. -/
def Narrow : Value → Prop
  | int24 n => -2 ^ 23 ≤ n.toInt ∧ n.toInt < 2 ^ 23
  | int48 n => -2 ^ 47 ≤ n.toInt ∧ n.toInt < 2 ^ 47
  | _ => True

/-- The size of a text or blob; the other values have the size of their kind. -/
def ownSize : Value → Nat
  | text s => s.utf8ByteSize
  | blob bytes => bytes.size
  | _ => 0

theorem stored_eq {value : Value} (narrow : value.Narrow) : value.stored = value := by
  cases value with
  | int24 n => rw [stored, Int.bmod_eq_of_le narrow.1 narrow.2, Int32.ofInt_toInt]
  | int48 n => rw [stored, Int.bmod_eq_of_le narrow.1 narrow.2, Int64.ofInt_toInt]
  | _ => rfl

theorem size_le (value : Value) : value.size ≤ value.ownSize + 8 := by
  cases value <;> simp [size, ownSize]

end Value

theorem Utf8.decode_ofText (s : String) : Utf8.decode (Bytes.ofText s) = .ok s := by
  have valid : (ByteArray.mk (Bytes.ofText s)).IsValidUTF8 := s.isValidUTF8
  simp only [Utf8.decode, String.fromUTF8?, valid, dif_pos]
  rfl

theorem Utf8.ofText_of_decode {bytes : Bytes} {s : String} (read : Utf8.decode bytes = .ok s) :
    Bytes.ofText s = bytes := by
  unfold Utf8.decode String.fromUTF8? at read
  by_cases valid : (ByteArray.mk bytes).IsValidUTF8
  · simp only [valid, dif_pos, Except.ok.injEq] at read
    rw [← read]
    rfl
  · simp only [valid, dif_neg, not_false_eq_true] at read
    cases read

namespace Record

theorem valueOf_body (value : Value) : valueOf (.ofValue value) (body value) = .ok value.stored := by
  cases value with
  | float64 bits =>
    have fits : bits.toNat < 256 ^ 8 := bits.toNat_lt
    simp only [SerialType.ofValue, body, valueOf, Bytes.natBE_ofNatBE_of_lt fits, UInt64.ofNat_toNat, Value.stored]
  | text s =>
    simp only [SerialType.ofValue, body, valueOf, Utf8.decode_ofText]
    rfl
  | int24 n => simp only [SerialType.ofValue, body, valueOf, Bytes.signedBE_ofIntBE, Value.stored]; rfl
  | int48 n => simp only [SerialType.ofValue, body, valueOf, Bytes.signedBE_ofIntBE, Value.stored]; rfl
  | int8 n => simp [SerialType.ofValue, body, valueOf, Bytes.signedBE_ofIntBE, Value.stored]
  | int16 n => simp [SerialType.ofValue, body, valueOf, Bytes.signedBE_ofIntBE, Value.stored]
  | int32 n => simp [SerialType.ofValue, body, valueOf, Bytes.signedBE_ofIntBE, Value.stored]
  | int64 n => simp [SerialType.ofValue, body, valueOf, Bytes.signedBE_ofIntBE, Value.stored]
  | null => rfl
  | blob bytes => rfl

/-! ## Writing and reading back -/

theorem getElem?_fieldsOf (offset : Nat) (values : List Value) (index : Nat) :
    (fieldsOf offset values)[index]? = values[index]?.map fun value =>
      ⟨.ofValue value, offset + (bodyBytes (values.take index)).size, value.size⟩ := by
  induction values generalizing offset index with
  | nil => simp [fieldsOf]
  | cons value values ih =>
    cases index with
    | zero => simp [fieldsOf]
    | succ index => simp [fieldsOf, ih, Nat.add_assoc]

@[simp] theorem length_fieldsOf (offset : Nat) (values : List Value) :
    (fieldsOf offset values).length = values.length := by
  induction values generalizing offset with
  | nil => rfl
  | cons value values ih => simp [fieldsOf, ih]

theorem bodyBytes_append (values others : List Value) :
    bodyBytes (values ++ others) = bodyBytes values ++ bodyBytes others := by
  rw [bodyBytes, List.map_append, Bytes.concat_append, ← bodyBytes, ← bodyBytes]

/-- The bytes of a field are those its place gives, also for a last field that ends with the payload. -/
theorem bytesOf_of_holds {record : Record} {field : RecordField} {index : Nat} {bytes : Bytes}
    (held : record.payload.slice? field.offset (field.offset + field.size) = some bytes)
    (ends : index + 1 = record.fieldCount → record.payload.size = field.offset + field.size) :
    record.bytesOf index field = .ok bytes := by
  have stop : record.stopOf index field = field.offset + field.size := by
    unfold stopOf
    split
    · rename_i last
      exact ends last.2
    · rfl
  rw [bytesOf_eq_ok_iff, stop]
  exact Bytes.slice?_eq_some_iff.1 held

/-- The record of a payload in which the fields of `values` follow `front`. -/
def laidOut (rowId : RowId) (front : Bytes) (values : List Value) : Record :=
  ⟨rowId, ⟨front.size, fieldsOf front.size values⟩, front ++ bodyBytes values⟩

theorem value_laidOut (rowId : RowId) (front : Bytes) {values : List Value} {index : Nat} {value : Value}
    (there : values[index]? = some value) : (laidOut rowId front values).value index = .ok value.stored := by
  obtain ⟨inside, same⟩ := List.getElem?_eq_some_iff.1 there
  -- The payload is the front, the bodies before this one, this one and the bodies behind it.
  have split : bodyBytes values = bodyBytes (values.take index) ++ (body value ++ bodyBytes (values.drop (index + 1))) := by
    rw [← bodyBytes_cons, ← bodyBytes_append, ← same, List.getElem_cons_drop, List.take_append_drop]
  have held : (front ++ bodyBytes values).Holds (front.size + (bodyBytes (values.take index)).size) (body value) := by
    rw [split, ← Array.append_assoc, ← Array.append_assoc, ← Array.size_append]
    exact Bytes.holds_middle _ _ _
  rw [Bytes.Holds, size_body] at held
  have field : (laidOut rowId front values).field index =
      .ok ⟨.ofValue value, front.size + (bodyBytes (values.take index)).size, value.size⟩ := by
    rw [Record.field, laidOut, getElem?_fieldsOf, there]
    rfl
  have bytes : (laidOut rowId front values).bytesOf index
      ⟨.ofValue value, front.size + (bodyBytes (values.take index)).size, value.size⟩ = .ok (body value) :=
    bytesOf_of_holds held (by
      intro last
      have ends : index + 1 = values.length := by rw [last, fieldCount, laidOut, length_fieldsOf]
      simp only [laidOut]
      rw [split, List.drop_of_length_le (by omega)]
      simp only [Array.size_append, size_body, bodyBytes_nil, Array.size_empty]
      omega)
  rw [Record.value, field]
  simp only [bind, Except.bind, bytes, valueOf_body]
  rfl

theorem values_laidOut (rowId : RowId) (front : Bytes) (values : List Value) :
    (laidOut rowId front values).values = .ok (values.map Value.stored) := by
  have count : (laidOut rowId front values).fieldCount = values.length := length_fieldsOf _ _
  rw [Record.values, Outcomes.mapM_eq_ok_iff, count]
  apply List.ext_getElem (by simp)
  intro index inside _
  simp only [List.length_map, List.length_range] at inside
  simp only [List.getElem_map, List.getElem_range]
  exact value_laidOut rowId front (List.getElem?_eq_getElem inside)

/-- What is encoded decodes, as long as every serial type and every offset is a number of 64 bits. -/
theorem decode_encode (rowId : RowId) {values : List Value}
    (fits : ∀ value ∈ values, (SerialType.ofValue value).raw < 2 ^ 64)
    (room : (typeBytes values).size + 9 + (bodyBytes values).size < 2 ^ 64) :
    ∃ front, decode rowId (encode values) = .ok (laidOut rowId front values) := by
  have length := headerLength_eq (typeBytes values).size (by omega)
  have most := headerLength_le (typeBytes values).size (by omega)
  have count := Varint.whole_encode (UInt64.ofNat (headerLength (typeBytes values).size))
  rw [UInt64.toNat_ofNat_of_lt' (show _ < 2 ^ 64 by omega)] at count
  rw [encode]
  generalize headerLength (typeBytes values).size = size at *
  generalize Varint.encode (UInt64.ofNat size) = front at *
  have header : RecordHeader.decode (front ++ typeBytes values ++ bodyBytes values) =
      .ok ⟨size, fieldsOf size values⟩ := by
    refine decode_eq_ok_iff.2 ⟨front, _, values.map SerialType.ofValue, count, wholes_typeBytes fits, ?_, ?_, ?_, ?_⟩
    · exact (Bytes.holds_self _).append_right _
    · rw [Array.size_append, ← typeBytes]
      exact length.symm
    · rw [sum_size_ofValue]
      dsimp only
      omega
    · exact fieldsOf_eq _ _
  refine ⟨front ++ typeBytes values, ?_⟩
  rw [Record.decode, header]
  simp only [bind, Except.bind, pure, Except.pure, laidOut, Array.size_append, length]

/-! ## How long an encoding is -/

theorem raw_le (value : Value) : (SerialType.ofValue value).raw ≤ 13 + 2 * value.ownSize := by
  cases value <;> simp [SerialType.ofValue, SerialType.raw, Value.ownSize]

/-- The serial type of a text or blob is never longer than a byte and the text or blob itself. -/
theorem size_typeBytes_le {values : List Value} (fits : ∀ value ∈ values, (SerialType.ofValue value).raw < 2 ^ 64) :
    (typeBytes values).size ≤ values.length + (values.map Value.ownSize).sum := by
  induction values with
  | nil => simp
  | cons value values ih =>
    have rest := ih fun other inside => fits other (List.mem_cons_of_mem _ inside)
    have raw := raw_le value
    have read : (UInt64.ofNat (SerialType.ofValue value).raw).toNat = (SerialType.ofValue value).raw :=
      UInt64.toNat_ofNat_of_lt' (fits value List.mem_cons_self)
    have short := Varint.size_encode_le (UInt64.ofNat (SerialType.ofValue value).raw)
    have one := Varint.size_encode_le_iff (UInt64.ofNat (SerialType.ofValue value).raw) 1 (by decide) (by decide)
    rw [read] at one
    simp only [typeBytes_cons, Array.size_append, List.length_cons, List.map_cons, List.sum_cons]
    by_cases few : value.ownSize < 57
    · have := one.2 (by omega)
      omega
    · omega

/-- No serial type is longer than a varint can be. -/
theorem size_typeBytes_le_maxLength (values : List Value) :
    (typeBytes values).size ≤ Varint.maxLength * values.length := by
  induction values with
  | nil => simp
  | cons value values ih =>
    have short := Varint.size_encode_le (UInt64.ofNat (SerialType.ofValue value).raw)
    rw [typeBytes_cons, Array.size_append, List.length_cons, Nat.mul_succ, Nat.add_comm]
    exact Nat.add_le_add ih short

theorem size_bodyBytes (values : List Value) : (bodyBytes values).size = (values.map Value.size).sum := by
  induction values with
  | nil => rfl
  | cons value values ih => rw [bodyBytes_cons, Array.size_append, size_body, ih, List.map_cons, List.sum_cons]

/-! ## Reading back and writing again -/

/-- What it takes for the field at `index` to have a value. -/
theorem of_value {record : Record} {index : Nat} {value : Value} (read : record.value index = .ok value) :
    ∃ field bytes, record.header.fields[index]? = some field ∧ record.bytesOf index field = .ok bytes ∧
      valueOf field.serialType bytes = .ok value := by
  obtain ⟨field, found, read⟩ := Outcomes.ok_of_bind read
  obtain ⟨bytes, taken, read⟩ := Outcomes.ok_of_bind read
  refine ⟨field, bytes, field_eq_ok_iff.1 found, taken, ?_⟩
  cases shown : valueOf field.serialType bytes with
  | error fault => simp [shown, Except.mapError] at read
  | ok other =>
    rw [shown] at read
    cases read
    rfl

/-- The bytes of a field lie in the payload, and there are as many as the field has unless it is the last. -/
theorem of_bytesOf {record : Record} {index : Nat} {field : RecordField} {bytes : Bytes}
    (taken : record.bytesOf index field = .ok bytes) :
    field.offset + bytes.size ≤ record.payload.size ∧
      (field.serialType.isVariable = false ∨ index + 1 ≠ record.fieldCount → bytes.size = field.size) := by
  obtain ⟨order, inside, rfl⟩ := bytesOf_eq_ok_iff.1 taken
  rw [Array.size_extract, Nat.min_eq_left inside]
  refine ⟨by omega, fun fixed => ?_⟩
  have early : ¬ record.EndsOpen index field := by
    rintro ⟨own, last⟩
    rcases fixed with fixed | other
    · rw [fixed] at own
      cases own
    · exact other last
  rw [stopOf, if_neg early, Nat.add_sub_cancel_left]

theorem signedBE_bounds {bytes : Bytes} (width : Nat) (size : bytes.size = width + 1) :
    -(128 * 256 ^ width : Nat) ≤ bytes.signedBE ∧ bytes.signedBE < (128 * 256 ^ width : Nat) := by
  have wide : 256 ^ (width + 1) = 256 * 256 ^ width := Nat.pow_succ'
  have positive := Nat.pow_pos (n := width) (show 0 < 256 by decide)
  have least := Int.le_bmod (x := bytes.natBE) (m := 256 ^ (width + 1)) (by omega)
  have most := Int.bmod_lt (x := bytes.natBE) (m := 256 ^ (width + 1)) (by omega)
  rw [Bytes.signedBE_eq_bmod, size]
  omega

/-- A value read from as many bytes as its kind has is narrow, and it takes no more bytes in a record
than it was read from, but for the numbers that took none. -/
theorem narrow_of_valueOf {serialType : SerialType} {bytes : Bytes} {value : Value}
    (read : valueOf serialType bytes = .ok value)
    (sized : serialType.isVariable = false → bytes.size = serialType.size) :
    value.Narrow ∧ value.size ≤ bytes.size + 1 ∧ value.ownSize ≤ bytes.size := by
  cases serialType with
  | int24 =>
    cases read
    have size : bytes.size = 3 := sized rfl
    have bounds := signedBE_bounds 2 size
    have same : (Int32.ofInt bytes.signedBE).toInt = bytes.signedBE := by
      rw [Int32.toInt_ofInt, Int.bmod_eq_of_le (by simp; omega) (by simp; omega)]
    simp only [Value.Narrow, Value.size, Value.ownSize, same]
    omega
  | int48 =>
    cases read
    have size : bytes.size = 6 := sized rfl
    have bounds := signedBE_bounds 5 size
    have same : (Int64.ofInt bytes.signedBE).toInt = bytes.signedBE := by
      rw [Int64.toInt_ofInt, Int.bmod_eq_of_le (by simp; omega) (by simp; omega)]
    simp only [Value.Narrow, Value.size, Value.ownSize, same]
    omega
  | text length =>
    cases decoded : Utf8.decode bytes with
    | error fault =>
      rw [valueOf, decoded] at read
      cases read
    | ok s =>
      rw [valueOf, decoded] at read
      cases read
      have size := congrArg Array.size (Utf8.ofText_of_decode decoded)
      have own : (Bytes.ofText s).size = s.utf8ByteSize := by simp [Bytes.ofText]
      refine ⟨trivial, ?_⟩
      simp only [Value.size, Value.ownSize]
      omega
  | blob length =>
    cases read
    exact ⟨trivial, Nat.le_succ _, Nat.le_refl _⟩
  | _ =>
    cases read
    have size := sized rfl
    simp only [SerialType.size] at size
    simp only [Value.Narrow, Value.size, Value.ownSize, true_and]
    omega

/-- A field has a value only inside the payload, and only the last one takes other bytes than it says. -/
theorem narrow_of_value {record : Record} {index : Nat} {field : RecordField} {value : Value}
    (there : record.header.fields[index]? = some field) (sized : field.size = field.serialType.size)
    (read : record.value index = .ok value) :
    ∃ taken, field.offset + taken ≤ record.payload.size ∧
      (index + 1 ≠ record.fieldCount → taken = field.size) ∧
      value.Narrow ∧ value.size ≤ taken + 1 ∧ value.ownSize ≤ taken := by
  obtain ⟨field', bytes, found, taken, shown⟩ := of_value read
  cases there.symm.trans found
  obtain ⟨ends, whole⟩ := of_bytesOf taken
  exact ⟨bytes.size, ends, fun early => whole (.inr early),
    narrow_of_valueOf shown fun fixed => (whole (.inl fixed)).trans sized⟩

/-- Values read from adjacent fields take no more bytes than lie behind the first of them, and one for each
number that took none. Fields behind those that are read do not matter. -/
theorem sum_size_le {record : Record} {fields : List RecordField} (index : Nat) {offset : Nat} {values : List Value}
    (suffix : record.header.fields.drop index = fields) (adjacent : Adjacent offset fields)
    (inside : offset ≤ record.payload.size) (few : values.length ≤ fields.length)
    (reads : ∀ i (below : i < values.length), record.value (index + i) = .ok values[i]) :
    (∀ value ∈ values, value.Narrow) ∧
      (values.map Value.size).sum + offset ≤ record.payload.size + values.length ∧
      (values.map Value.ownSize).sum + offset ≤ record.payload.size := by
  induction values generalizing index offset fields with
  | nil => simpa using inside
  | cons value values ih =>
    cases fields with
    | nil => simp at few
    | cons first rest =>
      obtain ⟨starts, size, adjacent⟩ := adjacent
      have there := getElem?_of_drop suffix
      obtain ⟨taken, ends, whole, narrow, small, own⟩ := narrow_of_value there size (reads 0 (by simp))
      have count := congrArg List.length suffix
      rw [List.length_drop, List.length_cons] at count
      simp only [List.getElem_cons_zero] at narrow small own
      simp only [List.length_cons, Nat.add_le_add_iff_right] at few
      simp only [List.map_cons, List.sum_cons, List.length_cons, List.forall_mem_cons]
      cases values with
      | nil =>
        simp only [List.map_nil, List.sum_nil, List.length_nil]
        exact ⟨⟨narrow, by simp⟩, by omega, by omega⟩
      | cons next values =>
        simp only [List.length_cons] at few
        have whole := whole (by rw [fieldCount]; omega)
        obtain ⟨allNarrow, total, owns⟩ := ih (index + 1) (drop_of_drop suffix) adjacent (by omega) few
          (fun i below => by
            have next := reads (i + 1) (by rw [List.length_cons]; omega)
            have step : index + 1 + i = index + (i + 1) := by omega
            rwa [List.getElem_cons_succ, ← step] at next)
        exact ⟨⟨narrow, allNarrow⟩, by omega, by omega⟩

/-- The values of a record are as many as its fields, and each is the value of its field. -/
theorem of_values {record : Record} {values : List Value} (read : record.values = .ok values) :
    values.length = record.fieldCount ∧ ∀ i (below : i < values.length), record.value i = .ok values[i] := by
  rw [Record.values, Outcomes.mapM_eq_ok_iff] at read
  have same := congrArg List.length read
  simp only [List.length_map, List.length_range] at same
  refine ⟨same.symm, fun i below => ?_⟩
  have there := congrArg (fun outcomes => outcomes[i]?) read
  simpa [same, below] using there

/-- A header of 2⁵⁶ bytes or more counts them in nine bytes. -/
theorem few_of_long {payload : Bytes} {header : RecordHeader} (read : RecordHeader.decode payload = .ok header)
    (long : 2 ^ 56 ≤ header.length) : header.fields.length + 9 ≤ header.length := by
  obtain ⟨count, types, serialTypes, whole, wholes, -, ends, -, fields⟩ := decode_eq_ok_iff.1 read
  have few := length_le_of_whole wholes
  have same : (UInt64.ofNat header.length).toNat = header.length := UInt64.toNat_ofNat_of_lt' whole.lt
  rw [← same] at whole
  have shortest := whole.size_encode_le
  have nine := Varint.size_encode_le_iff (UInt64.ofNat header.length) 8 (by decide) (by decide)
  rw [same] at nine
  rw [Array.size_append] at ends
  rw [fields, length_fieldsFor]
  omega

/-- What was read is narrow throughout, and there is little of it next to its payload: a byte of the header
stands for each value, and one for the length of the header, or nine when there are very many. -/
theorem narrow_of_values {rowId : RowId} {payload : Bytes} {record : Record} {values : List Value}
    (decoded : decode rowId payload = .ok record) (read : record.values = .ok values) :
    (∀ value ∈ values, value.Narrow) ∧ values.length + (values.map Value.ownSize).sum < payload.size ∧
      (values.map Value.size).sum < payload.size ∧
      (2 ^ 56 ≤ values.length → values.length + (values.map Value.ownSize).sum + 9 ≤ payload.size) := by
  obtain ⟨header, found, decoded⟩ := Outcomes.ok_of_bind decoded
  cases decoded
  obtain ⟨inside, few, adjacent⟩ := of_decode found
  have long := few_of_long found
  obtain ⟨same, reads⟩ := of_values read
  obtain ⟨narrow, total, owns⟩ := sum_size_le 0 List.drop_zero adjacent inside same.le (by simpa using reads)
  simp only [fieldCount] at same total owns
  exact ⟨narrow, by omega, by omega, by omega⟩

theorem ownSize_le_sum {values : List Value} {value : Value} (inside : value ∈ values) :
    value.ownSize ≤ (values.map Value.ownSize).sum :=
  List.single_le_sum (fun _ _ => Nat.zero_le _) _ (List.mem_map_of_mem inside)

/-- A text or blob of so many bytes has a serial type of 64 bits. -/
theorem raw_lt {value : Value} (short : value.ownSize + 7 ≤ 2 ^ 63) : (SerialType.ofValue value).raw < 2 ^ 64 := by
  have raw := raw_le value
  omega

/-- Values whose encoding leaves the offsets in 64 bits read back as they are stored. -/
theorem stored_of_room (rowId : RowId) {values : List Value} (short : ∀ value ∈ values, value.ownSize + 7 ≤ 2 ^ 63)
    (room : (typeBytes values).size + 9 + (values.map Value.size).sum < 2 ^ 64) :
    ∃ record, decode rowId (encode values) = .ok record ∧ record.fieldCount = values.length ∧
      record.values = .ok (values.map Value.stored) := by
  obtain ⟨front, decoded⟩ :=
    decode_encode rowId (fun value inside => raw_lt (short value inside)) (by rw [size_bodyBytes]; exact room)
  exact ⟨_, decoded, length_fieldsOf _ _, values_laidOut _ _ _⟩

/-- What is encoded reads back as it is stored, and what was read is narrow, so it reads back as it is. A list held in
memory has fewer than `2 ^ 59` values, each of which takes more than sixteen bytes of it, and a payload has fewer than
`2 ^ 63` bytes. Of a text or blob read from it no more is asked than that its serial type is a number of 64 bits. -/
theorem values_round_trip (rowId : RowId) :
    (∀ values : List Value, values.length < 2 ^ 59 → (values.map Value.ownSize).sum < 2 ^ 62 →
      ∃ record, decode rowId (encode values) = .ok record ∧ record.fieldCount = values.length ∧
        record.values = .ok (values.map Value.stored)) ∧
    (∀ value : Value, value.Narrow → value.stored = value) ∧
    ∀ (payload : Bytes) (record : Record) (values : List Value),
      decode rowId payload = .ok record → record.values = .ok values →
        (∀ value ∈ values, value.Narrow) ∧
        (payload.size < 2 ^ 63 → (∀ value ∈ values, value.ownSize + 7 ≤ 2 ^ 63) →
          ∃ again, decode rowId (encode values) = .ok again ∧
            again.fieldCount = values.length ∧ again.values = .ok values) := by
  refine ⟨?_, fun _ => Value.stored_eq, ?_⟩
  · intro values few small
    have short (value : Value) (inside : value ∈ values) : value.ownSize + 7 ≤ 2 ^ 63 := by
      have own := ownSize_le_sum inside
      omega
    have types := size_typeBytes_le fun value inside => raw_lt (short value inside)
    have sizes : (values.map Value.size).sum ≤ (values.map fun value => value.ownSize + 8).sum :=
      List.sum_le_sum fun value _ => value.size_le
    rw [List.sum_map_add, List.map_const', List.sum_replicate_nat] at sizes
    exact stored_of_room rowId short (by omega)
  · intro payload record values decoded read
    obtain ⟨narrow, owns, total, many⟩ := narrow_of_values decoded read
    refine ⟨narrow, fun inMemory short => ?_⟩
    have same : values.map Value.stored = values :=
      (List.map_congr_left fun value inside => Value.stored_eq (narrow value inside)).trans (List.map_id values)
    have types := size_typeBytes_le fun value inside => raw_lt (short value inside)
    -- With few values the serial types are short, and with many the header has eight more bytes to spare.
    have few := size_typeBytes_le_maxLength values
    rw [Varint.maxLength] at few
    obtain ⟨again, decoded, count, read⟩ := stored_of_room rowId short (by omega)
    exact ⟨again, decoded, count, same ▸ read⟩

/-- A number of 25 bits comes back without its top bit; the constants zero and one come back as bytes. -/
theorem values_round_trip_mixed :
    (∃ record, decode 7 (encode [.int24 0x1800000, .text "hi", .null, .blob #[1]]) = .ok record ∧
      record.fieldCount = 4 ∧ record.values = .ok [.int24 (-0x800000), .text "hi", .null, .blob #[1]]) ∧
    ∃ again, decode 7 (encode [.int8 0, .text "a", .text "b"]) = .ok again ∧ again.fieldCount = 3 ∧
      again.values = .ok [.int8 0, .text "a", .text "b"] := by
  obtain ⟨forth, -, back⟩ := values_round_trip 7
  refine ⟨forth [.int24 0x1800000, .text "hi", .null, .blob #[1]] (by decide) (by decide), ?_⟩
  have decoded : decode 7 #[4, 8, 15, 15, 97, 98] =
      .ok ⟨7, ⟨4, [⟨.zero, 4, 0⟩, ⟨.text 1, 4, 1⟩, ⟨.text 1, 5, 1⟩]⟩, #[4, 8, 15, 15, 97, 98]⟩ := by decide +kernel
  exact (back _ _ [.int8 0, .text "a", .text "b"] decoded (by decide +kernel)).2 (by decide) (by decide)

end Record
end SqliteReader
