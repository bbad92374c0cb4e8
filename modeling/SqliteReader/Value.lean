import SqliteReader.Bytes
import SqliteReader.Decimal.Shortest
import SqliteReader.Text.Quoted

/-!
# Values

A value is what one field of a record holds. Its constructor remembers the width it was stored with,
so the same number in three and in eight bytes gives two different values. A row is identified by a
number of its own.
-/
namespace SqliteReader

/-- The number that identifies a row within its table. -/
abbrev RowId := Int64

/-- The content of one field. -/
inductive Value
  | null
  | int8 (n : Int8)
  | int16 (n : Int16)
  /-- Stored in three bytes; a number that needs more is cut to its low 24 bits when it is stored. -/
  | int24 (n : Int32)
  | int32 (n : Int32)
  /-- Stored in six bytes; a number that needs more is cut to its low 48 bits when it is stored. -/
  | int48 (n : Int64)
  | int64 (n : Int64)
  /-- A floating point number, by its bits. -/
  | float64 (bits : UInt64)
  | text (text : String)
  | blob (bytes : Bytes)
  deriving Repr, DecidableEq, Inhabited

namespace Value

def isNull : Value → Bool
  | null => true
  | _ => false

/-- The number that an integer of any width holds. -/
def toInt? : Value → Option Int
  | int8 n => some n.toInt
  | int16 n => some n.toInt
  | int24 n | int32 n => some n.toInt
  | int48 n | int64 n => some n.toInt
  | null | float64 _ | text _ | blob _ => none

/-- The number of bytes the value takes in the body of a record. -/
def size : Value → Nat
  | null => 0
  | int8 _ => 1
  | int16 _ => 2
  | int24 _ => 3
  | int32 _ => 4
  | int48 _ => 6
  | int64 _ | float64 _ => 8
  | text s => s.utf8ByteSize
  | blob bytes => bytes.size

/-- Floating point numbers keep a point or an exponent, so that they never look like integers; numbers
below a ten-thousandth and from ten quadrillion on are written with an exponent. -/
def floatFormat : Decimal.Format := ⟨-4, 16, "NaN", "inf"⟩

/-- The value as a row of results shows it. -/
def display : Value → String
  | null => "NULL"
  | int8 n => toString n.toInt
  | int16 n => toString n.toInt
  | int24 n | int32 n => toString n.toInt
  | int48 n | int64 n => toString n.toInt
  | float64 bits => floatFormat.text bits
  | text s => s
  | blob bytes => "x'" ++ bytes.hex ++ "'"

/-- The name of the value's width, with its content in brackets. -/
def spelled : Value → String
  | null => "Null"
  | int8 n => s!"Int8({n.toInt})"
  | int16 n => s!"Int16({n.toInt})"
  | int24 n => s!"Int24({n.toInt})"
  | int32 n => s!"Int32({n.toInt})"
  | int48 n => s!"Int48({n.toInt})"
  | int64 n => s!"Int64({n.toInt})"
  | float64 bits => "Float64(" ++ floatFormat.text bits ++ ")"
  | text s => "Text(" ++ Text.quoted s ++ ")"
  | blob bytes =>
    "Blob([" ++ ", ".intercalate (bytes.toList.map fun byte => toString byte.toNat) ++ "])"

end Value
end SqliteReader
