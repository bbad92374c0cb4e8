import SqliteReader.Bytes

/-!
# Reading text, and where it stops being UTF-8

`decode` reads a byte string as text. When the bytes are no text, `Fault` says how long the valid
start is and how many bytes the first bad sequence has.
-/
namespace SqliteReader.Utf8

/-- The first place where bytes stop being UTF-8. -/
structure Fault where
  /-- Length of the valid text before the fault. -/
  validLength : Nat
  /-- Length of the longest start of a character that the next byte cannot continue; none when the
  bytes end inside a character that is valid so far. -/
  invalidLength : Option Nat
  deriving Repr, DecidableEq

/-- An inclusive range of bytes. -/
structure Range where
  low : UInt8
  high : UInt8
  deriving Repr, DecidableEq

def Range.contains (range : Range) (byte : UInt8) : Bool := range.low ≤ byte && byte ≤ range.high

/-- Any byte that continues a character. -/
def continuation : Range := ⟨0x80, 0xBF⟩

/-- The ranges of the bytes that must follow the first byte of a character. The second byte is
narrower where a longer form than needed, a surrogate or a number above `10FFFF` would start. -/
def followers (first : UInt8) : Option (List Range) :=
  if first < 0x80 then some []
  else if first < 0xC2 then none
  else if first < 0xE0 then some [continuation]
  else if first = 0xE0 then some [⟨0xA0, 0xBF⟩, continuation]
  else if first = 0xED then some [⟨0x80, 0x9F⟩, continuation]
  else if first < 0xF0 then some [continuation, continuation]
  else if first = 0xF0 then some [⟨0x90, 0xBF⟩, continuation, continuation]
  else if first < 0xF4 then some [continuation, continuation, continuation]
  else if first = 0xF4 then some [⟨0x80, 0x8F⟩, continuation, continuation]
  else none

/-- Scans on at `position`, inside a character that began at `start` and still needs bytes in the
`expected` ranges, or between characters when it needs none. -/
def faultFrom (position start : Nat) : (expected : List Range) → List UInt8 → Option Fault
  | [], [] => none
  | _ :: _, [] => some ⟨start, none⟩
  | [], byte :: rest =>
    match followers byte with
    | none => some ⟨position, some 1⟩
    | some expected => faultFrom (position + 1) position expected rest
  | range :: expected, byte :: rest =>
    if range.contains byte then faultFrom (position + 1) start expected rest
    else some ⟨start, some (position - start)⟩

/-- The first fault of `bytes` as UTF-8. -/
def fault? (bytes : Bytes) : Option Fault := faultFrom 0 0 [] bytes.toList

def Fault.message (fault : Fault) : String :=
  match fault.invalidLength with
  | some length => s!"invalid utf-8 sequence of {length} bytes from index {fault.validLength}"
  | none => s!"incomplete utf-8 byte sequence from index {fault.validLength}"

/-- The text that `bytes` write, or the first fault. -/
def decode (bytes : Bytes) : Except Fault String :=
  match String.fromUTF8? ⟨bytes⟩ with
  | some text => .ok text
  | none => .error ((fault? bytes).getD ⟨bytes.size, none⟩)

end SqliteReader.Utf8
