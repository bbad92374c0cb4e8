/-!
# Byte strings and big-endian numbers

Everything in a database file is a run of bytes, and every number in it is written most significant
byte first. `natBE` reads such a number and `ofNatBE` writes one of a given width; `signedBE` reads
two's complement.
-/
namespace SqliteReader

/-- A run of bytes: a file, a page, a record payload or a blob. -/
abbrev Bytes := Array UInt8

namespace Bytes

/-- The big-endian number written by all of `bytes`. -/
def natBE (bytes : Bytes) : Nat :=
  bytes.foldl (fun n byte => n * 256 + byte.toNat) 0

/-- The big-endian number in the `width` bytes from `offset` on. -/
def natAt (bytes : Bytes) (offset width : Nat) : Nat :=
  natBE (bytes.extract offset (offset + width))

/-- The low `width` bytes of `n`, most significant first. -/
def ofNatBE : (width n : Nat) → Bytes
  | 0, _ => #[]
  | width + 1, n => (ofNatBE width (n / 256)).push (UInt8.ofNat n)

/-- The big-endian two's complement number written by all of `bytes`: the top bit of the first byte
is the sign, whatever the width. -/
def signedBE (bytes : Bytes) : Int :=
  if (bytes[0]?.getD 0).toNat < 128 then bytes.natBE else bytes.natBE - Nat.pow 256 bytes.size

/-- The low `width` bytes of the two's complement form of `n`. -/
def ofIntBE (width : Nat) (n : Int) : Bytes :=
  ofNatBE width (n % Nat.pow 256 width).toNat

/-- The bytes from `offset` up to `stop`, if that is a run inside `bytes`. -/
def slice? (bytes : Bytes) (offset stop : Nat) : Option Bytes :=
  if offset ≤ stop ∧ stop ≤ bytes.size then some (bytes.extract offset stop) else none

/-- `bytes` with the run from `offset` on replaced by `patch`, whose end lies inside `bytes`. -/
def overwrite (bytes : Bytes) (offset : Nat) (patch : Bytes) : Bytes :=
  bytes.extract 0 offset ++ patch ++ bytes.extract (offset + patch.size) bytes.size

def concat (runs : List Bytes) : Bytes := runs.foldl (· ++ ·) #[]

def zeros (n : Nat) : Bytes := Array.replicate n 0

/-- Two lower-case hexadecimal digits per byte. -/
def hex (bytes : Bytes) : String :=
  bytes.foldl (fun text byte =>
    (text.push (Nat.digitChar (byte.toNat / 16))).push (Nat.digitChar (byte.toNat % 16))) ""

/-- The bytes of a text in UTF-8. -/
def ofText (text : String) : Bytes := text.toUTF8.data

end Bytes
end SqliteReader
