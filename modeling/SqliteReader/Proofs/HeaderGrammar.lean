import SqliteReader.Proofs.RecordHeader

/-!
# The grammar of record headers

`Spells` says which payloads start with a record header, by the varints that it is made of and the numbers that
these write. Reading accepts such payloads and no others (`spells_iff`), and the fields that it gives are those of
the numbers, one behind the other (`header_grammar`).
-/
namespace SqliteReader

namespace SerialType

/-- The bytes that a field takes, by the number of its serial type. -/
def width : Nat → Nat
  | 0 => 0
  | 1 => 1
  | 2 => 2
  | 3 => 3
  | 4 => 4
  | 5 => 6
  | 6 => 8
  | 7 => 8
  | 8 => 0
  | 9 => 0
  | n => (n - 12) / 2

theorem width_raw (type : SerialType) : width type.raw = type.size := by
  cases type with
  | blob length =>
    have named : width (12 + 2 * length) = (12 + 2 * length - 12) / 2 := by
      rw [Nat.add_comm]
      rfl
    rw [raw, size, named]
    omega
  | text length =>
    have named : width (13 + 2 * length) = (13 + 2 * length - 12) / 2 := by
      rw [Nat.add_comm]
      rfl
    rw [raw, size, named]
    omega
  | _ => rfl

/-- Every number but ten and eleven is that of a serial type. -/
theorem exists_raw : (n : Nat) → n ≠ 10 → n ≠ 11 → ∃ type : SerialType, type.raw = n
  | 0, _, _ => ⟨null, rfl⟩
  | 1, _, _ => ⟨int8, rfl⟩
  | 2, _, _ => ⟨int16, rfl⟩
  | 3, _, _ => ⟨int24, rfl⟩
  | 4, _, _ => ⟨int32, rfl⟩
  | 5, _, _ => ⟨int48, rfl⟩
  | 6, _, _ => ⟨int64, rfl⟩
  | 7, _, _ => ⟨float64, rfl⟩
  | 8, _, _ => ⟨zero, rfl⟩
  | 9, _, _ => ⟨one, rfl⟩
  | n + 12, _, _ => by
    by_cases even : n % 2 = 0
    · exact ⟨blob (n / 2), by rw [raw]; omega⟩
    · exact ⟨text (n / 2), by rw [raw]; omega⟩

theorem raw_known (type : SerialType) : type.raw ≠ 10 ∧ type.raw ≠ 11 := by
  cases type <;> simp only [raw] <;> omega

end SerialType

namespace Record

@[simp] theorem map_serialType_fieldsFor (offset : Nat) (serialTypes : List SerialType) :
    (fieldsFor offset serialTypes).map RecordField.serialType = serialTypes := by
  induction serialTypes generalizing offset with
  | nil => rfl
  | cons type rest ih => rw [fieldsFor, List.map_cons, ih]

theorem Adjacent.size_eq {offset : Nat} {fields : List RecordField} (adjacent : Adjacent offset fields) :
    ∀ field ∈ fields, field.size = field.serialType.size := by
  induction fields generalizing offset with
  | nil => simp
  | cons first rest ih =>
    obtain ⟨-, size, adjacent⟩ := adjacent
    exact List.forall_mem_cons.2 ⟨size, ih adjacent⟩

theorem Adjacent.first {offset : Nat} {fields : List RecordField} {field : RecordField}
    (adjacent : Adjacent offset fields) (there : fields[0]? = some field) : field.offset = offset := by
  cases fields with
  | nil => simp at there
  | cons first rest =>
    cases there
    exact adjacent.1

/-- The next field starts where the one before it ends. -/
theorem Adjacent.next {offset index : Nat} {fields : List RecordField} {field next : RecordField}
    (adjacent : Adjacent offset fields) (there : fields[index]? = some field)
    (behind : fields[index + 1]? = some next) : next.offset = field.offset + field.size := by
  induction fields generalizing offset index with
  | nil => simp at there
  | cons first rest ih =>
    obtain ⟨starts, -, adjacent⟩ := adjacent
    cases index with
    | zero =>
      cases there
      rw [adjacent.first behind, starts]
    | succ index => exact ih adjacent there behind

end Record

namespace RecordHeader

/-- The payload starts with a header of so many bytes: a varint of their number and, from there to the end of the
header, one varint of each of the numbers. None of these is reserved, and the fields end at a place that is a word. -/
def Spells (payload : Bytes) (length : Nat) (numbers : List Nat) : Prop :=
  ∃ (count : Bytes) (types : List Bytes), Varint.Whole count length ∧ List.Forall₂ Varint.Whole types numbers ∧
    length ≤ payload.size ∧ payload.extract 0 length = count ++ Bytes.concat types ∧
    (∀ n ∈ numbers, n ≠ 10 ∧ n ≠ 11) ∧ length + (numbers.map SerialType.width).sum < 2 ^ 64

theorem map_width_raw (serialTypes : List SerialType) :
    (serialTypes.map SerialType.raw).map SerialType.width = serialTypes.map SerialType.size := by
  rw [List.map_map]
  apply List.map_congr_left
  intro type _
  exact type.width_raw

/-- A payload starts with a header just when the header is read from it. -/
theorem spells_iff {payload : Bytes} {length : Nat} {numbers : List Nat} : Spells payload length numbers ↔
    ∃ header, decode payload = .ok header ∧ header.length = length ∧
      header.fields.map (fun field => field.serialType.raw) = numbers := by
  constructor
  · rintro ⟨count, types, whole, wholes, inside, front, known, room⟩
    -- Each number is that of a serial type, and its varint is then one of the type.
    obtain ⟨serialTypes, typed⟩ := Outcomes.exists_forall₂_iff.2 fun n among =>
      SerialType.exists_raw n (known n among).1 (known n among).2
    obtain rfl : serialTypes.map SerialType.raw = numbers := by
      rw [← List.forall₂_eq_eq_eq, List.forall₂_map_left_iff]
      exact typed.flip
    rw [List.forall₂_map_right_iff] at wholes
    rw [map_width_raw] at room
    have size := congrArg Array.size front
    rw [Array.size_extract] at size
    have held := front ▸ Bytes.holds_extract (Nat.zero_le length) inside
    refine ⟨⟨length, Record.fieldsFor length serialTypes⟩, ?_, rfl, ?_⟩
    · exact Record.decode_eq_ok_iff.2 ⟨count, types, serialTypes, whole, wholes, held, by dsimp only; omega, room, rfl⟩
    · rw [← Record.map_serialType_fieldsFor length serialTypes, List.map_map, Record.map_serialType_fieldsFor]
      rfl
  · rintro ⟨header, read, rfl, rfl⟩
    obtain ⟨count, types, serialTypes, whole, wholes, held, ends, room, fields⟩ := Record.decode_eq_ok_iff.1 read
    have numbers : header.fields.map (fun field => field.serialType.raw) = serialTypes.map SerialType.raw := by
      rw [← Record.map_serialType_fieldsFor header.length serialTypes, List.map_map, ← fields]
      rfl
    have inside := held.le_size
    have front := held.extract_eq
    rw [Nat.zero_add] at inside front
    rw [numbers]
    refine ⟨count, types, whole, List.forall₂_map_right_iff.2 wholes, by omega, ?_, ?_, ?_⟩
    · rw [ends, front]
    · intro n among
      obtain ⟨type, -, rfl⟩ := List.mem_map.1 among
      exact type.raw_known
    · rw [map_width_raw]
      exact room

/-- Reading accepts exactly the payloads that start with a header. The header that it gives is then as long as it says,
and has one field for each number: of the serial type with that number, of its width, the first at the end of the
header and each further one at the end of the one before it. -/
theorem header_grammar (payload : Bytes) :
    ((∃ header, decode payload = .ok header) ↔ ∃ length numbers, Spells payload length numbers) ∧
    ∀ header length numbers, decode payload = .ok header → Spells payload length numbers →
      header.length = length ∧ header.fields.map (fun field => field.serialType.raw) = numbers ∧
      header.fields.map RecordField.size = numbers.map SerialType.width ∧
      (∀ first, header.fields[0]? = some first → first.offset = length) ∧
      ∀ index field next, header.fields[index]? = some field → header.fields[index + 1]? = some next →
        next.offset = field.offset + field.size := by
  constructor
  · constructor
    · rintro ⟨header, read⟩
      exact ⟨_, _, spells_iff.2 ⟨header, read, rfl, rfl⟩⟩
    · rintro ⟨length, numbers, spelled⟩
      obtain ⟨header, read, -⟩ := spells_iff.1 spelled
      exact ⟨header, read⟩
  · intro header length numbers read spelled
    obtain ⟨same, again, rfl, rfl⟩ := spells_iff.1 spelled
    obtain rfl := Except.ok.inj (read.symm.trans again)
    obtain ⟨-, -, adjacent⟩ := Record.of_decode read
    refine ⟨rfl, rfl, ?_, fun _ => adjacent.first, fun _ _ _ => adjacent.next⟩
    rw [List.map_map]
    apply List.map_congr_left
    intro field inside
    rw [adjacent.size_eq field inside, Function.comp_apply, SerialType.width_raw]

/-- A header whose own length and first type are written in two bytes each, where one would do. Its last field, a text
of 64 bytes, reaches past the payload. -/
def paddedHeader : Bytes := #[0x80, 6, 0x80, 1, 0x81, 0x0D, 42]

theorem header_grammar_padded :
    Spells paddedHeader 6 [1, 141] ∧ ∃ header, decode paddedHeader = .ok header ∧ header.length = 6 ∧
      header.fields.map (fun field => field.serialType.raw) = [1, 141] ∧
      header.fields.map RecordField.size = [1, 64] := by
  have length : Varint.Whole #[0x80, 6] 6 := @Varint.Whole.short #[0x80] 6 (by decide) (by decide) (by decide)
  have first : Varint.Whole #[0x80, 1] 1 := @Varint.Whole.short #[0x80] 1 (by decide) (by decide) (by decide)
  have second : Varint.Whole #[0x81, 0x0D] 141 := @Varint.Whole.short #[0x81] 0x0D (by decide) (by decide) (by decide)
  have spelled : Spells paddedHeader 6 [1, 141] :=
    ⟨_, _, length, .cons first (.cons second .nil), by decide, by decide, by decide, by decide⟩
  obtain ⟨accepted, told⟩ := header_grammar paddedHeader
  obtain ⟨header, read⟩ := accepted.2 ⟨_, _, spelled⟩
  obtain ⟨size, numbers, sizes, -⟩ := told header 6 [1, 141] read spelled
  exact ⟨spelled, header, read, size, numbers, sizes⟩

end RecordHeader
end SqliteReader
