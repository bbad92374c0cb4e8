import SqliteReader.Error

/-!
# Varints

A varint writes a 64-bit number in one to nine bytes. Each of the first eight bytes gives seven bits,
most significant first, and its top bit says that another byte follows; a ninth byte gives all its
eight bits. `encode` writes the shortest form, `decode` also reads padded ones.
-/
namespace SqliteReader.Varint

/-- The greatest number of bytes in a varint. -/
def maxLength : Nat := 9

/-- The byte at `offset`. -/
def byteAt (bytes : Bytes) (offset : Nat) : Except Error UInt8 :=
  match bytes[offset]? with
  | some byte => .ok byte
  | none => .error (.outOfBounds .varint offset bytes.size)

/-- Reads on at `offset + used`, where `value` has been read from `used` bytes and up to `groups` more
bytes give seven bits each before the one that gives eight. -/
def decodeFrom (bytes : Bytes) (offset : Nat) :
    (groups : Nat) → (value : UInt64) → (used : Nat) → Except Error (UInt64 × Nat)
  | 0, value, used => do
    let byte ← byteAt bytes (offset + used)
    return (value <<< 8 ||| byte.toUInt64, used + 1)
  | groups + 1, value, used => do
    let byte ← byteAt bytes (offset + used)
    let value := value <<< 7 ||| (byte &&& 0x7F).toUInt64
    if byte < 0x80 then return (value, used + 1)
    decodeFrom bytes offset groups value (used + 1)

/-- The number whose varint starts at `offset`, with the number of bytes it takes. -/
def decode (bytes : Bytes) (offset : Nat) : Except Error (UInt64 × Nat) :=
  decodeFrom bytes offset (maxLength - 1) 0 0

/-- The varint at `offset` read as a signed number, which is how row ids are stored. -/
def decodeSigned (bytes : Bytes) (offset : Nat) : Except Error (Int64 × Nat) := do
  let (value, used) ← decode bytes offset
  return (value.toInt64, used)

theorem used_pos_of_decodeFrom {bytes : Bytes} {offset groups used n : Nat} {value v : UInt64}
    (h : decodeFrom bytes offset groups value used = .ok (v, n)) : used < n := by
  induction groups generalizing value used with
  | zero =>
    simp only [decodeFrom, bind, Except.bind, pure, Except.pure] at h
    split at h
    · cases h
    · cases h; omega
  | succ groups ih =>
    simp only [decodeFrom, bind, Except.bind, pure, Except.pure] at h
    split at h
    · cases h
    · split at h
      · cases h; omega
      · have := ih h; omega

/-- A varint takes at least one byte. -/
theorem pos_of_decode {bytes : Bytes} {offset n : Nat} {v : UInt64}
    (h : decode bytes offset = .ok (v, n)) : 0 < n :=
  used_pos_of_decodeFrom h

/-- The seven-bit groups of `n`, most significant first, each marked as followed by another byte. -/
def leading (n : Nat) : List UInt8 :=
  if n = 0 then [] else leading (n / 128) ++ [UInt8.ofNat (n % 128 + 128)]

/-- The `count` low groups of `n`, marked likewise, zeros included. -/
def padded : (count n : Nat) → List UInt8
  | 0, _ => []
  | count + 1, n => padded count (n / 128) ++ [UInt8.ofNat (n % 128 + 128)]

/-- The first number that eight groups of seven bits do not hold. -/
def wideFrom : Nat := 0x100000000000000

/-- The shortest varint of `value`. -/
def encode (value : UInt64) : Bytes :=
  let n := value.toNat
  if n < wideFrom then (leading (n / 128) ++ [UInt8.ofNat (n % 128)]).toArray
  else (padded 8 (n / 256) ++ [UInt8.ofNat n]).toArray

/-- The number of bytes in the shortest varint of `value`, from its number of bits. -/
def encodedLength (value : UInt64) : Nat :=
  let n := value.toNat
  if n < wideFrom then if n = 0 then 1 else (n.log2 + 1 + 6) / 7
  else maxLength

end SqliteReader.Varint
