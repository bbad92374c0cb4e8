import SqliteReader.Proofs.HeaderLength
import SqliteReader.Proofs.Partial

/-!
# Headers of encoded records

A record header is a varint of its own length and, to its end, serial types, whose fields lie one behind the other
(`decode_eq_ok_iff`). The serial types of values are such a run (`wholes_typeBytes`).
-/
namespace SqliteReader

namespace SerialType

theorem ofRaw_raw {serialType : SerialType} (fits : serialType.raw < 2 ^ 64) :
    ofRaw (UInt64.ofNat serialType.raw) = .ok serialType := by
  have read : (UInt64.ofNat serialType.raw).toNat = serialType.raw := UInt64.toNat_ofNat_of_lt' fits
  have wide {raw : UInt64} {n : Nat} (large : raw.toNat = n + 12) :
      ofRaw raw = .ok (if (n + 12) % 2 = 0 then blob (n / 2) else text (n / 2)) := by
    rw [ofRaw, large]
    rfl
  cases serialType with
  | blob length =>
    rw [wide (n := 2 * length) (by rw [read, raw]; omega), if_pos (by omega)]
    congr 2
    omega
  | text length =>
    rw [wide (n := 2 * length + 1) (by rw [read, raw]; omega), if_neg (by omega)]
    congr 2
    omega
  | _ => rfl

/-- The number of a serial type that was read is a word: the one it was read from. -/
theorem raw_of_ofRaw {number : UInt64} {serialType : SerialType} (read : ofRaw number = .ok serialType) :
    serialType.raw = number.toNat := by
  unfold ofRaw at read
  generalize number.toNat = n at read ⊢
  match n with
  | 0 | 1 | 2 | 3 | 4 | 5 | 6 | 7 | 8 | 9 =>
    cases read
    rfl
  | 10 | 11 => cases read
  | n + 12 =>
    obtain rfl : (if (n + 12) % 2 = 0 then .blob ((n + 12 - 12) / 2) else .text ((n + 12 - 12) / 2)) = serialType :=
      Except.ok.inj read
    split
    · rw [raw]
      omega
    · rw [raw]
      omega

@[simp] theorem size_ofValue (value : Value) : (ofValue value).size = value.size := by
  cases value <;> rfl

end SerialType

namespace Record

@[simp] theorem size_body (value : Value) : (body value).size = value.size := by
  cases value with
  | text s => simp [body, Value.size, Bytes.ofText]
  | _ => simp [body, Value.size]

/-! ## The fields -/

/-- The fields of `values`, the first of which starts at `offset`. -/
def fieldsOf : (offset : Nat) → List Value → List RecordField
  | _, [] => []
  | offset, value :: values => ⟨.ofValue value, offset, value.size⟩ :: fieldsOf (offset + value.size) values

@[simp] theorem typeBytes_nil : typeBytes [] = #[] := rfl

@[simp] theorem typeBytes_cons (value : Value) (values : List Value) :
    typeBytes (value :: values) =
      Varint.encode (UInt64.ofNat (SerialType.ofValue value).raw) ++ typeBytes values := by
  rw [typeBytes, List.map_cons, Bytes.concat_cons, ← typeBytes]

@[simp] theorem bodyBytes_nil : bodyBytes [] = #[] := rfl

@[simp] theorem bodyBytes_cons (value : Value) (values : List Value) :
    bodyBytes (value :: values) = body value ++ bodyBytes values := by
  rw [bodyBytes, List.map_cons, Bytes.concat_cons, ← bodyBytes]

/-- Before the end of the header a varint gives the next field, behind which the one after it starts. -/
theorem fieldsFrom_of_lt {header : Bytes} {position : Nat} (inside : position < header.size) (size offset : Nat) :
    RecordHeader.fieldsFrom header size position offset = (Varint.decode header position).bind fun (raw, used) => do
      let serialType ← SerialType.ofRaw raw
      if RecordHeader.offsetLimit ≤ offset + serialType.size then throw (.outOfBounds .recordField offset size)
      let rest ← RecordHeader.fieldsFrom header size (position + used) (offset + serialType.size)
      return ⟨serialType, offset, serialType.size⟩ :: rest := by
  rw [RecordHeader.fieldsFrom, if_pos inside]
  split <;> rename_i read <;> rw [read] <;> rfl

/-- Where a varint can be read, it is a serial type, and the next field starts behind the one it stands for. -/
theorem fieldsFrom_of_decode {header : Bytes} {position used : Nat} {raw : UInt64} (inside : position < header.size)
    (decoded : Varint.decode header position = .ok (raw, used)) (size offset : Nat) :
    RecordHeader.fieldsFrom header size position offset = (do
      let serialType ← SerialType.ofRaw raw
      if RecordHeader.offsetLimit ≤ offset + serialType.size then throw (.outOfBounds .recordField offset size)
      let rest ← RecordHeader.fieldsFrom header size (position + used) (offset + serialType.size)
      return ⟨serialType, offset, serialType.size⟩ :: rest) := by
  rw [fieldsFrom_of_lt inside, decoded]
  rfl

/-- The fields of these serial types, the first of which starts at `offset`. -/
def fieldsFor : (offset : Nat) → List SerialType → List RecordField
  | _, [] => []
  | offset, first :: rest => ⟨first, offset, first.size⟩ :: fieldsFor (offset + first.size) rest

/-- Serial types that stand one behind the other to the end of a header are read as its fields. -/
theorem fieldsFrom_of_whole {header : Bytes} (size : Nat) {position offset : Nat} {types : List Bytes}
    {serialTypes : List SerialType} (whole : List.Forall₂ (fun run type => Varint.Whole run type.raw) types serialTypes)
    (held : header.Holds position (Bytes.concat types)) (ends : header.size = position + (Bytes.concat types).size)
    (room : offset + (serialTypes.map SerialType.size).sum < 2 ^ 64) :
    RecordHeader.fieldsFrom header size position offset = .ok (fieldsFor offset serialTypes) := by
  induction whole generalizing position offset with
  | nil =>
    simp only [Bytes.concat_nil, Array.size_empty, Nat.add_zero] at ends
    rw [RecordHeader.fieldsFrom, if_neg (by omega)]
    rfl
  | @cons run type types serialTypes first _ ih =>
    rw [Bytes.concat_cons, Bytes.holds_append] at held
    simp only [Bytes.concat_cons, Array.size_append, List.map_cons, List.sum_cons] at ends room
    have positive := first.size_pos
    have small : ¬ RecordHeader.offsetLimit ≤ offset + type.size := by
      simp only [RecordHeader.offsetLimit, UInt64.size]
      omega
    have rest := @ih (position + run.size) (offset + type.size) held.2 (by omega) (by omega)
    rw [fieldsFrom_of_decode (by omega) (Varint.decode_of_whole first held.1)]
    simp only [SerialType.ofRaw_raw first.lt, bind, Except.bind, small, if_false, rest]
    rfl

/-- The header of a record that was read is such serial types to its end. -/
theorem whole_of_fieldsFrom {header : Bytes} {size position offset : Nat} {fields : List RecordField}
    (read : RecordHeader.fieldsFrom header size position offset = .ok fields) (inside : position ≤ header.size)
    (small : offset < 2 ^ 64) :
    ∃ types serialTypes, List.Forall₂ (fun run type => Varint.Whole run type.raw) types serialTypes ∧
      header.Holds position (Bytes.concat types) ∧ header.size = position + (Bytes.concat types).size ∧
      offset + (serialTypes.map SerialType.size).sum < 2 ^ 64 ∧ fields = fieldsFor offset serialTypes := by
  induction position, offset using RecordHeader.fieldsFrom.induct header generalizing fields with
  | case1 position offset before error failed =>
    rw [fieldsFrom_of_lt before, failed] at read
    cases read
  | case2 position offset before raw used decoded ih =>
    obtain ⟨run, whole, held, rfl⟩ := Varint.decode_eq_ok_iff.1 decoded
    rw [fieldsFrom_of_decode before decoded] at read
    obtain ⟨type, typed, read⟩ := Outcomes.ok_of_bind read
    dsimp only at read
    split at read
    · cases read
    · rename_i next
      obtain ⟨rest, more, read⟩ := Outcomes.ok_of_bind read
      cases read
      have next : offset + type.size < 2 ^ 64 := Nat.not_le.1 next
      obtain ⟨types, serialTypes, wholes, behind, ends, room, rfl⟩ := ih type more held.le_size next
      rw [← SerialType.raw_of_ofRaw typed] at whole
      refine ⟨run :: types, type :: serialTypes, .cons whole wholes, ?_, ?_, ?_, rfl⟩
      · rw [Bytes.concat_cons, Bytes.holds_append]
        exact ⟨held, behind⟩
      · rw [Bytes.concat_cons, Array.size_append]
        omega
      · rw [List.map_cons, List.sum_cons]
        omega
  | case3 position offset outside =>
    rw [RecordHeader.fieldsFrom, if_neg outside] at read
    cases read
    refine ⟨[], [], .nil, ?_, ?_, ?_, rfl⟩
    · exact Bytes.holds_iff.2 ⟨inside, by simp⟩
    · simp only [Bytes.concat_nil, Array.size_empty]
      omega
    · simpa using small

theorem fieldsOf_eq (offset : Nat) (values : List Value) :
    fieldsOf offset values = fieldsFor offset (values.map SerialType.ofValue) := by
  induction values generalizing offset with
  | nil => rfl
  | cons value values ih => rw [fieldsOf, ih, List.map_cons, fieldsFor, SerialType.size_ofValue]

/-- A header is a varint with its own length and serial types behind it, and its fields are those of these types. -/
theorem decode_eq_ok_iff {payload : Bytes} {header : RecordHeader} : RecordHeader.decode payload = .ok header ↔
    ∃ count types serialTypes, Varint.Whole count header.length ∧
      List.Forall₂ (fun run type => Varint.Whole run type.raw) types serialTypes ∧
      payload.Holds 0 (count ++ Bytes.concat types) ∧ header.length = (count ++ Bytes.concat types).size ∧
      header.length + (serialTypes.map SerialType.size).sum < 2 ^ 64 ∧
      header.fields = fieldsFor header.length serialTypes := by
  constructor
  · intro read
    obtain ⟨⟨length, used⟩, counted, read⟩ := Outcomes.ok_of_bind read
    obtain ⟨count, whole, first, rfl⟩ := Varint.decode_eq_ok_iff.1 counted
    dsimp only at read
    split at read
    · cases read
    · rename_i inside
      split at read
      · cases read
      · rename_i own
        obtain ⟨fields, found, read⟩ := Outcomes.ok_of_bind read
        cases read
        have size : (payload.extract 0 length.toNat).size = length.toNat := by
          rw [Array.size_extract]
          omega
        obtain ⟨types, serialTypes, wholes, held, ends, room, rfl⟩ :=
          whole_of_fieldsFrom found (by omega) length.toNat_lt
        rw [Bytes.holds_extract_iff (by omega)] at held
        refine ⟨count, types, serialTypes, whole, wholes, ?_, ?_, room, rfl⟩
        · rw [Bytes.holds_append, Nat.zero_add]
          exact ⟨first, held.1⟩
        · rw [Array.size_append, ← ends, size]
  · rintro ⟨count, types, serialTypes, whole, wholes, held, ends, room, fields⟩
    obtain ⟨length, others⟩ := header
    have inside := held.le_size
    dsimp only at whole ends room fields
    subst fields
    rw [Array.size_append] at ends inside
    rw [Bytes.holds_append, Nat.zero_add] at held
    have read : (UInt64.ofNat length).toNat = length := UInt64.toNat_ofNat_of_lt' whole.lt
    have size : (payload.extract 0 length).size = count.size + (Bytes.concat types).size := by
      rw [Array.size_extract]
      omega
    have shorter : length ≤ payload.size := by omega
    have behind := (Bytes.holds_extract_iff shorter).2 ⟨held.2, by omega⟩
    have found := fieldsFrom_of_whole payload.size wholes behind size room
    have enough : ¬ payload.size < length := by omega
    have own : ¬ length < count.size := by omega
    rw [RecordHeader.decode, Varint.decode_of_whole whole held.1]
    simp only [bind, Except.bind, pure, Except.pure, read, enough, own, if_false, found]

/-- The serial types of values are whole varints, when they are words. -/
theorem wholes_typeBytes {values : List Value} (fits : ∀ value ∈ values, (SerialType.ofValue value).raw < 2 ^ 64) :
    List.Forall₂ (fun run type => Varint.Whole run type.raw)
      (values.map fun value => Varint.encode (UInt64.ofNat (SerialType.ofValue value).raw))
      (values.map SerialType.ofValue) := by
  rw [List.forall₂_map_left_iff, List.forall₂_map_right_iff, List.forall₂_same]
  intro value inside
  have whole := Varint.whole_encode (UInt64.ofNat (SerialType.ofValue value).raw)
  rwa [UInt64.toNat_ofNat_of_lt' (fits value inside)] at whole

theorem sum_size_ofValue (values : List Value) :
    ((values.map SerialType.ofValue).map SerialType.size).sum = (bodyBytes values).size := by
  rw [bodyBytes, Bytes.size_concat, List.map_map, List.map_map]
  congr 1
  apply List.map_congr_left
  intro value _
  rw [Function.comp_apply, Function.comp_apply, SerialType.size_ofValue, size_body]

/-! ## What a decoded header says -/

/-- The fields lie one behind the other from `offset` on, each with the size of its serial type. -/
def Adjacent : (offset : Nat) → List RecordField → Prop
  | _, [] => True
  | offset, field :: fields =>
    field.offset = offset ∧ field.size = field.serialType.size ∧ Adjacent (offset + field.size) fields

theorem adjacent_fieldsFor (offset : Nat) (serialTypes : List SerialType) :
    Adjacent offset (fieldsFor offset serialTypes) := by
  induction serialTypes generalizing offset with
  | nil => trivial
  | cons type rest ih => exact ⟨rfl, rfl, ih _⟩

@[simp] theorem length_fieldsFor (offset : Nat) (serialTypes : List SerialType) :
    (fieldsFor offset serialTypes).length = serialTypes.length := by
  induction serialTypes generalizing offset with
  | nil => rfl
  | cons type rest ih => simp [fieldsFor, ih]

theorem length_le_of_whole {types : List Bytes} {serialTypes : List SerialType}
    (whole : List.Forall₂ (fun run type => Varint.Whole run type.raw) types serialTypes) :
    serialTypes.length ≤ (Bytes.concat types).size := by
  induction whole with
  | nil => exact Nat.zero_le _
  | cons first _ ih =>
    have positive := first.size_pos
    rw [Bytes.concat_cons, Array.size_append, List.length_cons]
    omega

/-- What a header that was read says about the place of its fields. Each of them took a byte of it. -/
theorem of_decode {payload : Bytes} {header : RecordHeader} (read : RecordHeader.decode payload = .ok header) :
    header.length ≤ payload.size ∧ header.fields.length < header.length ∧ Adjacent header.length header.fields := by
  obtain ⟨count, types, serialTypes, whole, wholes, held, ends, -, fields⟩ := decode_eq_ok_iff.1 read
  have positive := whole.size_pos
  have inside := held.le_size
  have few := length_le_of_whole wholes
  rw [Array.size_append] at ends inside
  rw [fields, length_fieldsFor]
  exact ⟨by omega, by omega, adjacent_fieldsFor _ _⟩

theorem field_eq_ok_iff {record : Record} {index : Nat} {field : RecordField} :
    record.field index = .ok field ↔ record.header.fields[index]? = some field := by
  unfold Record.field
  cases record.header.fields[index]? <;> simp

end Record
end SqliteReader
