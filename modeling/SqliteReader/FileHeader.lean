import SqliteReader.Error

/-!
# The file header

The first hundred bytes of a database file: its page size, its text encoding and a number of counters
that are kept as they stand. `ofBytes` reads a header and `toBytes` writes one.
-/
namespace SqliteReader

namespace TextEncoding

/-- The encoding with the number `stored`. A file that nothing was written to yet has the number zero
and counts as UTF-8. -/
def ofStored (stored : Nat) : Except Error TextEncoding :=
  match stored with
  | 0 | 1 => .ok utf8
  | 2 => .ok utf16Little
  | 3 => .ok utf16Big
  | _ => .error (.invalidHeader (.unknownEncoding stored))

/-- The number that an encoding is written with. -/
def stored : TextEncoding → Nat
  | utf8 => 1
  | utf16Little => 2
  | utf16Big => 3

end TextEncoding

/-- The header of a database file. -/
structure FileHeader where
  magic : Vector UInt8 16
  /-- The page size in bytes, which is stored as one when it is 65536. -/
  pageSize : UInt32
  writeVersion : UInt8
  readVersion : UInt8
  reservedSpace : UInt8
  maxPayloadFraction : UInt8
  minPayloadFraction : UInt8
  leafPayloadFraction : UInt8
  changeCounter : UInt32
  pageCount : UInt32
  freelistTrunk : UInt32
  freelistCount : UInt32
  schemaCookie : UInt32
  schemaFormat : UInt32
  defaultCacheSize : UInt32
  largestRoot : UInt32
  textEncoding : TextEncoding
  userVersion : UInt32
  incrementalVacuum : UInt32
  applicationId : UInt32
  reserved : Vector UInt8 20
  versionValidFor : UInt32
  sqliteVersion : UInt32
  deriving Repr, DecidableEq

namespace FileHeader

/-- The number of bytes that the header takes at the start of a file. -/
def size : Nat := 100

def minPageSize : Nat := 512

def maxPageSize : Nat := 65536

/-- What every database file starts with: `SQLite format 3` and a zero byte. -/
def sqliteMagic : Vector UInt8 16 :=
  #v[0x53, 0x51, 0x4C, 0x69, 0x74, 0x65, 0x20, 0x66, 0x6F, 0x72, 0x6D, 0x61, 0x74, 0x20, 0x33, 0x00]

/-- The header of a new file of one page. -/
def initial : FileHeader where
  magic := sqliteMagic
  pageSize := 4096
  writeVersion := 1
  readVersion := 1
  reservedSpace := 0
  maxPayloadFraction := 64
  minPayloadFraction := 32
  leafPayloadFraction := 32
  changeCounter := 1
  pageCount := 1
  freelistTrunk := 0
  freelistCount := 0
  schemaCookie := 1
  schemaFormat := 4
  defaultCacheSize := 0
  largestRoot := 0
  textEncoding := .utf8
  userVersion := 0
  incrementalVacuum := 0
  applicationId := 0
  reserved := Vector.replicate 20 0
  versionValidFor := 1
  sqliteVersion := 3045000

/-- The two bytes of a page size: one stands for 65536, which needs three bytes, and of any other size
the low two bytes are kept. -/
def storedPageSize (pageSize : UInt32) : Nat :=
  if pageSize.toNat = maxPageSize then 1 else pageSize.toNat % UInt16.size

/-- The page size that is stored as `stored`: a power of two that a file may use. -/
def readPageSize (stored : Nat) : Except Error UInt32 :=
  let pageSize := if stored = 1 then maxPageSize else stored
  if pageSize = Nat.pow 2 pageSize.log2 ∧ minPageSize ≤ pageSize ∧ pageSize ≤ maxPageSize then
    .ok (UInt32.ofNat pageSize)
  else .error (.invalidHeader (.pageSize stored))

/-- Four bytes, most significant first. -/
def word (n : UInt32) : Bytes := Bytes.ofNatBE 4 n.toNat

/-- The hundred bytes of a header. -/
def toBytes (h : FileHeader) : Bytes :=
  h.magic.toArray ++ Bytes.ofNatBE 2 (storedPageSize h.pageSize) ++
  #[h.writeVersion, h.readVersion, h.reservedSpace, h.maxPayloadFraction, h.minPayloadFraction,
    h.leafPayloadFraction] ++
  word h.changeCounter ++ word h.pageCount ++ word h.freelistTrunk ++ word h.freelistCount ++
  word h.schemaCookie ++ word h.schemaFormat ++ word h.defaultCacheSize ++ word h.largestRoot ++
  Bytes.ofNatBE 4 h.textEncoding.stored ++ word h.userVersion ++ word h.incrementalVacuum ++
  word h.applicationId ++ h.reserved.toArray ++ word h.versionValidFor ++ word h.sqliteVersion

/-- The header at the start of a file. Its magic is looked at first, then its page size, then its text
encoding. -/
def ofBytes (bytes : Bytes) : Except Error FileHeader :=
  if enough : bytes.size < 100 then .error (.invalidHeader (.tooShort bytes.size))
  else do
    let byte (i : Nat) (inside : i < 100 := by decide) : UInt8 := bytes[i]
    let word (i : Nat) : UInt32 := UInt32.ofNat (bytes.natAt i 4)
    let magic := Vector.ofFn fun i : Fin 16 => byte i (by omega)
    if magic ≠ sqliteMagic then throw (.invalidHeader .wrongMagic)
    let pageSize ← readPageSize (bytes.natAt 16 2)
    let textEncoding ← TextEncoding.ofStored (bytes.natAt 56 4)
    return {
      magic, pageSize, textEncoding
      writeVersion := byte 18
      readVersion := byte 19
      reservedSpace := byte 20
      maxPayloadFraction := byte 21
      minPayloadFraction := byte 22
      leafPayloadFraction := byte 23
      changeCounter := word 24
      pageCount := word 28
      freelistTrunk := word 32
      freelistCount := word 36
      schemaCookie := word 40
      schemaFormat := word 44
      defaultCacheSize := word 48
      largestRoot := word 52
      userVersion := word 60
      incrementalVacuum := word 64
      applicationId := word 68
      reserved := Vector.ofFn fun i : Fin 20 => byte (72 + i) (by omega)
      versionValidFor := word 92
      sqliteVersion := word 96 }

end FileHeader
end SqliteReader
