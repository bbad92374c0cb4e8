import SqliteReader.Error
import SqliteReader.Varint

/-!
# Record headers

A record starts with a header: a varint that counts the bytes of the whole header, itself included,
and one varint per field with its serial type, a number that says what the field holds and how many
bytes of the body belong to it. The fields follow the header in the same order.
-/
namespace SqliteReader

/-- What a field holds. -/
inductive SerialType
  | null
  | int8
  | int16
  | int24
  | int32
  | int48
  | int64
  | float64
  /-- The number zero, which takes no bytes. -/
  | zero
  /-- The number one, which takes no bytes. -/
  | one
  | blob (length : Nat)
  | text (length : Nat)
  deriving Repr, DecidableEq

namespace SerialType

/-- The serial type with the number `raw`; ten and eleven are reserved. -/
def ofRaw (raw : UInt64) : Except Error SerialType :=
  match raw.toNat with
  | 0 => .ok null
  | 1 => .ok int8
  | 2 => .ok int16
  | 3 => .ok int24
  | 4 => .ok int32
  | 5 => .ok int48
  | 6 => .ok int64
  | 7 => .ok float64
  | 8 => .ok zero
  | 9 => .ok one
  | 10 | 11 => .error (.unsupportedSerialType raw)
  | n => .ok (if n % 2 = 0 then blob ((n - 12) / 2) else text ((n - 12) / 2))

/-- The number of a serial type. -/
def raw : SerialType → Nat
  | null => 0
  | int8 => 1
  | int16 => 2
  | int24 => 3
  | int32 => 4
  | int48 => 5
  | int64 => 6
  | float64 => 7
  | zero => 8
  | one => 9
  | blob length => 12 + 2 * length
  | text length => 13 + 2 * length

/-- The number of body bytes that belong to a field. -/
def size : SerialType → Nat
  | null | zero | one => 0
  | int8 => 1
  | int16 => 2
  | int24 => 3
  | int32 => 4
  | int48 => 6
  | int64 | float64 => 8
  | blob length | text length => length

/-- Whether the length of the field is its own, and not that of its kind. -/
def isVariable : SerialType → Bool
  | blob _ | text _ => true
  | _ => false

/-- The serial type that a value is stored with. -/
def ofValue : Value → SerialType
  | .null => null
  | .int8 _ => int8
  | .int16 _ => int16
  | .int24 _ => int24
  | .int32 _ => int32
  | .int48 _ => int48
  | .int64 _ => int64
  | .float64 _ => float64
  | .text s => text s.utf8ByteSize
  | .blob bytes => blob bytes.size

end SerialType

/-! ## The header -/

/-- Where one field of a record lies. -/
structure RecordField where
  serialType : SerialType
  /-- Distance from the start of the payload. -/
  offset : Nat
  size : Nat
  deriving Repr, DecidableEq

structure RecordHeader where
  length : Nat
  fields : List RecordField
  deriving Repr, DecidableEq

namespace RecordHeader

/-- Offsets within a payload stay below this number. -/
def offsetLimit : Nat := UInt64.size

/-- Reads serial types from `position` to the end of `header`, where the next field starts at `offset`
in a payload of `size` bytes. -/
def fieldsFrom (header : Bytes) (size position offset : Nat) : Except Error (List RecordField) :=
  if position < header.size then
    match _read : Varint.decode header position with
    | .error error => .error error
    | .ok (raw, used) => do
      let serialType ← SerialType.ofRaw raw
      let next := offset + serialType.size
      if offsetLimit ≤ next then throw (.outOfBounds .recordField offset size)
      let rest ← fieldsFrom header size (position + used) next
      return ⟨serialType, offset, serialType.size⟩ :: rest
  else .ok []
termination_by header.size - position
decreasing_by have := Varint.pos_of_decode _read; omega

/-- The header at the start of `payload`. No serial type reaches past the length it gives. -/
def decode (payload : Bytes) : Except Error RecordHeader := do
  let (length, used) ← Varint.decode payload 0
  let length := length.toNat
  if payload.size < length then throw (.outOfBounds .recordHeader 0 payload.size)
  if length < used then throw (.corruptedRecord (.headerLength length))
  let fields ← fieldsFrom (payload.extract 0 length) payload.size used length
  return ⟨length, fields⟩

end RecordHeader
end SqliteReader
