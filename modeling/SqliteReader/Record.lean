import SqliteReader.Record.Header

/-!
# Records

A record is the content of one row: its header and, behind it, the bytes of its fields. `Record.encode`
writes values as a payload, `Record.decode` and `Record.values` read them back.
-/
namespace SqliteReader

/-- One row as it is stored, with its header read. -/
structure Record where
  rowId : RowId
  header : RecordHeader
  payload : Bytes
  deriving Repr, DecidableEq

namespace Record

def decode (rowId : RowId) (payload : Bytes) : Except Error Record := do
  let header ← RecordHeader.decode payload
  return ⟨rowId, header, payload⟩

def fieldCount (record : Record) : Nat := record.header.fields.length

def serialType? (record : Record) (index : Nat) : Option SerialType :=
  (record.header.fields[index]?).map RecordField.serialType

/-- The bytes of `field`, which stands at `index`. A text or blob that comes last runs to the end of the
payload, whatever length its serial type gives. -/
def bytesOf (record : Record) (index : Nat) (field : RecordField) : Except Error Bytes :=
  let size := record.payload.size
  if field.serialType.isVariable && index + 1 == record.fieldCount then
    match record.payload.slice? field.offset size with
    | some bytes => .ok bytes
    | none => .error (.outOfBounds .lastField field.offset size)
  else
    match record.payload.slice? field.offset (field.offset + field.size) with
    | some bytes => .ok bytes
    | none => .error (.outOfBounds (.field index) field.offset size)

/-- The field at `index`, counted from zero. -/
def field (record : Record) (index : Nat) : Except Error RecordField :=
  match record.header.fields[index]? with
  | some field => .ok field
  | none => .error (.outOfBounds .fieldIndex index record.fieldCount)

/-- The bytes of the field at `index`. -/
def fieldBytes (record : Record) (index : Nat) : Except Error Bytes := do
  record.bytesOf index (← record.field index)

/-- What `bytes` hold as a field of the given type. -/
def valueOf (serialType : SerialType) (bytes : Bytes) : Except Utf8.Fault Value :=
  match serialType with
  | .null => .ok .null
  | .int8 => .ok (.int8 (Int8.ofInt bytes.signedBE))
  | .int16 => .ok (.int16 (Int16.ofInt bytes.signedBE))
  | .int24 => .ok (.int24 (Int32.ofInt bytes.signedBE))
  | .int32 => .ok (.int32 (Int32.ofInt bytes.signedBE))
  | .int48 => .ok (.int48 (Int64.ofInt bytes.signedBE))
  | .int64 => .ok (.int64 (Int64.ofInt bytes.signedBE))
  | .float64 => .ok (.float64 (UInt64.ofNat bytes.natBE))
  | .zero => .ok (.int8 0)
  | .one => .ok (.int8 1)
  | .text _ => (Utf8.decode bytes).map .text
  | .blob _ => .ok (.blob bytes)

/-- The value of the field at `index`. -/
def value (record : Record) (index : Nat) : Except Error Value := do
  let field ← record.field index
  let bytes ← record.bytesOf index field
  (valueOf field.serialType bytes).mapError fun fault =>
    .corruptedRecord (.invalidText index record.rowId fault)

/-- The values of all fields, or the first error among them. -/
def values (record : Record) : Except Error (List Value) :=
  (List.range record.fieldCount).mapM record.value

/-- The body bytes of a value. -/
def body : Value → Bytes
  | .null => #[]
  | .int8 n => Bytes.ofIntBE 1 n.toInt
  | .int16 n => Bytes.ofIntBE 2 n.toInt
  | .int24 n => Bytes.ofIntBE 3 n.toInt
  | .int32 n => Bytes.ofIntBE 4 n.toInt
  | .int48 n => Bytes.ofIntBE 6 n.toInt
  | .int64 n => Bytes.ofIntBE 8 n.toInt
  | .float64 bits => Bytes.ofNatBE 8 bits.toNat
  | .text s => Bytes.ofText s
  | .blob bytes => bytes

/-- The length of a header whose serial types take `types` bytes, when a guess at it is `length`: the
header counts its own length, so the guess grows until it counts itself right. -/
def settleLength (types : Nat) : (left : Nat) → (length : Nat) → Nat
  | 0, length => length
  | left + 1, length =>
    let next := Varint.encodedLength (UInt64.ofNat length) + types
    if next = length then length else settleLength types left next

/-- The length of a header whose serial types take `types` bytes. A varint is at most nine bytes long,
so nine guesses are enough. -/
def headerLength (types : Nat) : Nat := settleLength types Varint.maxLength (types + 1)

/-- The serial types of `values`, as varints. -/
def typeBytes (values : List Value) : Bytes :=
  Bytes.concat
    (values.map fun value => Varint.encode (UInt64.ofNat (SerialType.ofValue value).raw))

/-- The bodies of `values`, one behind the other. -/
def bodyBytes (values : List Value) : Bytes := Bytes.concat (values.map body)

/-- The payload that holds `values`, each with the width of its constructor. -/
def encode (values : List Value) : Bytes :=
  let types := typeBytes values
  Varint.encode (UInt64.ofNat (headerLength types.size)) ++ types ++ bodyBytes values

end Record
end SqliteReader
