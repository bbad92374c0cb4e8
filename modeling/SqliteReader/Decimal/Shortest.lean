/-!
# The shortest decimal of a binary fraction

A 64-bit floating point number stands for every real that rounds to it. `Finite.shortest` finds the
fewest decimal digits that name one of those reals, and among these the one nearest to the number.
All arithmetic is on natural numbers, so nothing is rounded on the way.
-/
namespace SqliteReader

/-- The decimal `coefficient * 10 ^ exponent`. -/
structure Decimal where
  coefficient : Nat
  exponent : Int
  deriving Repr, DecidableEq

namespace Decimal

/-- The positive number `mantissa * 2 ^ exponent`. -/
structure Finite where
  mantissa : Nat
  exponent : Int
  /-- Whether the neighbour below is only half as far away as the one above. -/
  narrowBelow : Bool
  deriving Repr, DecidableEq

/-- What 64 bits mean as a floating point number, its sign apart. -/
inductive Magnitude
  | zero
  | finite (number : Finite)
  | infinite
  | notANumber
  deriving Repr, DecidableEq

def isNegative (bits : UInt64) : Bool := 0x8000000000000000 ≤ bits.toNat

/-- The leading bit of a mantissa, which a number writes only by its exponent. -/
def hiddenBit : Nat := 0x10000000000000

/-- The magnitude that the exponent and fraction fields of `bits` give. -/
def magnitude (bits : UInt64) : Magnitude :=
  let exponent : Nat := bits.toNat / hiddenBit % 0x800
  let fraction := bits.toNat % hiddenBit
  if exponent = 2047 then if fraction = 0 then .infinite else .notANumber
  else if exponent = 0 then
    if fraction = 0 then .zero else .finite ⟨fraction, -1074, false⟩
  else .finite ⟨hiddenBit + fraction, (exponent : Int) - 1075, fraction = 0 && 1 < exponent⟩

/-- The part of `base ^ exponent` that stands above the fraction bar. -/
def powerAbove (base : Nat) (exponent : Int) : Nat := base.pow exponent.toNat

/-- The decimal nearest to `x` on the grid of multiples of `10 ^ grid`, if one rounds back to `x`.
A tie goes up. With the quarter of a unit of `x` as the measure, `x` is `4 * mantissa` and its
interval reaches down by one or two and up by two; its ends belong to it when the mantissa is even. -/
def Finite.onGrid (x : Finite) (grid : Int) : Option Decimal :=
  let quarter := x.exponent - 2
  let point := powerAbove 10 grid * powerAbove 2 (-quarter)
  let unit := powerAbove 10 (-grid) * powerAbove 2 quarter
  let value := 4 * x.mantissa * unit
  let low := (4 * x.mantissa - if x.narrowBelow then 1 else 2) * unit
  let high := (4 * x.mantissa + 2) * unit
  let inside (n : Nat) : Bool :=
    if x.mantissa % 2 = 0 then low ≤ n * point && n * point ≤ high
    else low < n * point && n * point < high
  let below := value / point
  let above := below + 1
  match inside below, inside above with
  | false, false => none
  | true, false => some ⟨below, grid⟩
  | false, true => some ⟨above, grid⟩
  | true, true =>
    if value - below * point < above * point - value then some ⟨below, grid⟩
    else some ⟨above, grid⟩

def digitCount (n : Nat) : Nat := (Nat.toDigits 10 n).length

/-- The least shift that makes `numerator * 10 ^ shift` reach `denominator`, looked for `left` steps. -/
def shiftToReach (numerator denominator : Nat) : (left : Nat) → Nat
  | 0 => 0
  | left + 1 =>
    if denominator ≤ numerator then 0 else shiftToReach (numerator * 10) denominator left + 1

/-- The exponent of the leading decimal digit of `x`. -/
def Finite.leadingExponent (x : Finite) : Int :=
  let numerator := x.mantissa * powerAbove 2 x.exponent
  let denominator := powerAbove 2 (-x.exponent)
  if denominator ≤ numerator then digitCount (numerator / denominator) - 1
  else -(shiftToReach numerator denominator 400 : Nat)

/-- `d` without the zeros at the end of its coefficient, of which at most `left` are dropped. -/
def dropZeros (d : Decimal) : (left : Nat) → Decimal
  | 0 => d
  | left + 1 =>
    if d.coefficient ≠ 0 ∧ d.coefficient % 10 = 0 then
      dropZeros ⟨d.coefficient / 10, d.exponent + 1⟩ left
    else d

/-- The decimal of fewest digits that rounds to `x`, nearest to `x` among those. Seventeen digits are
always enough. -/
def Finite.shortest (x : Finite) : Decimal :=
  let leading := x.leadingExponent
  let found := (List.range 17).findSome? fun (digits : Nat) => x.onGrid (leading - digits)
  (found.getD ⟨x.mantissa, x.exponent⟩).dropZeros 17

/-- How a floating point number is written. -/
structure Format where
  /-- The least exponent of the leading digit that is still written without an exponent. -/
  positionalFrom : Int
  /-- The first exponent of the leading digit that is written with an exponent again. -/
  positionalUpTo : Int
  notANumber : String
  infinite : String
  deriving Repr

def zeroText (count : Nat) : String := String.ofList (List.replicate count '0')

/-- A positive decimal with a point and at least one digit on each side of it. -/
def positional (d : Decimal) : String :=
  let digits := toString d.coefficient
  if 0 ≤ d.exponent then digits ++ zeroText d.exponent.toNat ++ ".0"
  else
    let places := (-d.exponent).toNat
    let padded := (zeroText (places + 1 - digits.length) ++ digits).toList
    let whole := padded.length - places
    String.ofList (padded.take whole) ++ "." ++ String.ofList (padded.drop whole)

/-- A positive decimal as a digit, the other digits behind a point if there are any, and the exponent. -/
def scientific (d : Decimal) : String :=
  let digits := (toString d.coefficient).toList
  let rest := if 1 < digits.length then '.' :: digits.drop 1 else []
  String.ofList (digits.take 1 ++ rest) ++ "e" ++ toString (d.exponent + (digits.length - 1 : Nat))

/-- The text of a floating point number given by its bits. -/
def Format.text (format : Format) (bits : UInt64) : String :=
  let sign := if isNegative bits then "-" else ""
  match magnitude bits with
  | .notANumber => format.notANumber
  | .infinite => sign ++ format.infinite
  | .zero => sign ++ "0.0"
  | .finite number =>
    let d := number.shortest
    let leading := d.exponent + (digitCount d.coefficient - 1 : Nat)
    sign ++ if format.positionalFrom ≤ leading ∧ leading < format.positionalUpTo then d.positional
      else d.scientific

end Decimal

end SqliteReader
