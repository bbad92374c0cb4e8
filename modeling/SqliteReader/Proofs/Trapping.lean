import SqliteReader.Proofs.RecordHeader

/-!
# Decoding with traps

The functions that decode files work on numbers and runs of bytes of any size. A machine does not: its numbers are
words of 64 bits, and it stops where a result is no word or where a byte is taken from outside a run, unless the
program looks first. `Trapping` are steps that may stop so. The functions of this namespace are those that decode
files, in such steps, with each operation that could stop them. Each is proved to answer as the function that it
follows (`answer`), so none of them ever stops. Here are varints and serial types.
-/
namespace SqliteReader

/-- Steps that give a result or an error, or stop at a trap. -/
abbrev Trapping := ExceptT Error Option

namespace Trapping
variable {α β : Type}

/-! ## Operations -/

/-- The machine stops. -/
def trap : Trapping α := (none : Option (Except Error α))

/-- What is answered without any operation that could trap. -/
def answer (result : Except Error α) : Trapping α := (some result : Option (Except Error α))

def add (a b : Nat) : Trapping Nat := if a + b < UInt64.size then pure (a + b) else trap

def sub (a b : Nat) : Trapping Nat := if b ≤ a then pure (a - b) else trap

def mul (a b : Nat) : Trapping Nat := if a * b < UInt64.size then pure (a * b) else trap

/-- The sum, or an error when it is no word. -/
def addOr (a b : Nat) (error : Error) : Trapping Nat := if a + b < UInt64.size then pure (a + b) else throw error

/-- The byte at `offset`. -/
def byte (bytes : Bytes) (offset : Nat) : Trapping UInt8 :=
  match bytes[offset]? with
  | some byte => pure byte
  | none => trap

/-- The run from `offset` up to `stop`. -/
def slice (bytes : Bytes) (offset stop : Nat) : Trapping Bytes :=
  match bytes.slice? offset stop with
  | some run => pure run
  | none => trap

/-- The item at `index`. -/
def item (items : List α) (index : Nat) : Trapping α :=
  match items[index]? with
  | some item => pure item
  | none => trap

/-- The big-endian number in the bytes at `offset`, `offset + 1` and so on. -/
def natAt (bytes : Bytes) (offset : Nat) : (width : Nat) → Trapping Nat
  | 0 => pure 0
  | width + 1 => do
    let front ← natAt bytes offset width
    let last ← byte bytes (← add offset width)
    return front * 256 + last.toNat

/-- A copy of the `width` bytes from `offset` on, for which a place of the same width is ready. -/
def block (bytes : Bytes) (offset width : Nat) : Trapping (Vector UInt8 width) := do
  let run ← slice bytes offset (← add offset width)
  if sized : run.size = width then return ⟨run, sized⟩ else trap

/-! ## When they give a result -/

theorem add_eq {a b : Nat} (fits : a + b < UInt64.size) : add a b = pure (a + b) := if_pos fits

theorem sub_eq {a b : Nat} (fits : b ≤ a) : sub a b = pure (a - b) := if_pos fits

theorem mul_eq {a b : Nat} (fits : a * b < UInt64.size) : mul a b = pure (a * b) := if_pos fits

theorem byte_eq {bytes : Bytes} {offset : Nat} (inside : offset < bytes.size) :
    byte bytes offset = pure bytes[offset] := by
  rw [byte, Array.getElem?_eq_getElem inside]

example : byte #[1, 2] 2 = trap := rfl

theorem slice_eq {bytes : Bytes} {offset stop : Nat} (before : offset ≤ stop) (inside : stop ≤ bytes.size) :
    slice bytes offset stop = pure (bytes.extract offset stop) := by
  rw [slice, Bytes.slice?, if_pos ⟨before, inside⟩]

theorem answer_pure (a : α) : answer (.ok a) = pure a := rfl

/-- Steps behind an answer, of which each is answered, are answered together. -/
theorem answer_bind {result : Except Error α} {next : α → Trapping β} {final : α → Except Error β}
    (answered : ∀ a, result = .ok a → next a = answer (final a)) :
    (answer result >>= next) = answer (result.bind final) := by
  cases result with
  | error error => rfl
  | ok a => exact answered a rfl

/-- Steps of which each is answered are answered together. -/
theorem mapM_answer {items : List α} {step : α → Trapping β} (result : α → Except Error β)
    (answered : ∀ a ∈ items, step a = answer (result a)) : items.mapM step = answer (items.mapM result) := by
  induction items with
  | nil => rfl
  | cons a items ih =>
    rw [List.mapM_cons, List.mapM_cons, answered a List.mem_cons_self,
      ih fun b among => answered b (List.mem_cons_of_mem _ among)]
    exact answer_bind fun b _ => answer_bind fun rest _ => rfl

theorem mapM_eq {items : List α} {step : α → Trapping β} (result : α → β)
    (steps : ∀ a ∈ items, step a = pure (result a)) : items.mapM step = pure (items.map result) := by
  rw [mapM_answer (fun a => pure (result a)) steps, List.mapM_pure]
  rfl

theorem natAt_eq {bytes : Bytes} {offset width : Nat} (inside : offset + width ≤ bytes.size)
    (fits : offset + width < UInt64.size) : natAt bytes offset width = pure (bytes.natAt offset width) := by
  induction width with
  | zero => rw [natAt, Bytes.natAt_zero]
  | succ width ih =>
    have here : offset + width < bytes.size := by omega
    rw [natAt, ih (by omega) (by omega), pure_bind, add_eq (by omega), pure_bind, byte_eq here, pure_bind,
      Bytes.natAt_succ here]

theorem block_eq {bytes : Bytes} {offset width : Nat} (inside : offset + width ≤ bytes.size)
    (fits : offset + width < UInt64.size) :
    block bytes offset width = pure (Vector.ofFn fun i => bytes[offset + i]) := by
  have sized : (bytes.extract offset (offset + width)).size = width := by
    rw [Array.size_extract]
    omega
  rw [block, add_eq fits, pure_bind, slice_eq (Nat.le_add_right _ _) inside, pure_bind, dif_pos sized]
  congr 1
  ext i below
  simp

/-! ## Varints -/

/-- Byte strings in the memory of a machine are shorter than this number. -/
def sizeLimit : Nat := Nat.pow 2 63

/-- `Varint.decodeFrom` with traps. -/
def varintFrom (bytes : Bytes) (offset : Nat) :
    (groups : Nat) → (value : UInt64) → (used : Nat) → Trapping (UInt64 × Nat)
  | 0, value, _ => do
    let place ← sub (← add offset Varint.maxLength) 1
    let last ← answer (Varint.byteAt bytes place)
    return (value <<< 8 ||| last.toUInt64, Varint.maxLength)
  | groups + 1, value, used => do
    let next ← answer (Varint.byteAt bytes (← add offset used))
    let value := value <<< 7 ||| (next &&& 0x7F).toUInt64
    if next < 0x80 then return (value, ← add used 1)
    varintFrom bytes offset groups value (used + 1)

/-- `Varint.decode` with traps. -/
def varint (bytes : Bytes) (offset : Nat) : Trapping (UInt64 × Nat) := varintFrom bytes offset (Varint.maxLength - 1) 0 0

/-- `Varint.decodeSigned` with traps. -/
def signedVarint (bytes : Bytes) (offset : Nat) : Trapping (Int64 × Nat) := do
  let (value, used) ← varint bytes offset
  return (value.toInt64, used)

/-- Before each byte of a varint but the first, the byte before was there. -/
theorem varintFrom_eq {bytes : Bytes} {offset groups used : Nat} (small : bytes.size < sizeLimit)
    (start : offset < UInt64.size) (all : used + groups + 1 = Varint.maxLength)
    (inside : used = 0 ∨ offset + used ≤ bytes.size) (value : UInt64) :
    varintFrom bytes offset groups value used = answer (Varint.decodeFrom bytes offset groups value used) := by
  have limit : sizeLimit + 1 < UInt64.size := by decide
  have nine : Varint.maxLength = 9 := rfl
  have fits : offset + used < UInt64.size := by omega
  induction groups generalizing used value with
  | zero =>
    have last : sub (offset + Varint.maxLength) 1 = pure (offset + used) := by
      rw [sub_eq (by omega)]
      congr 1
      omega
    rw [varintFrom, add_eq (by omega), pure_bind, last, pure_bind, Varint.decodeFrom, nine]
    refine answer_bind fun byte _ => ?_
    rw [show used + 1 = 9 by omega]
    rfl
  | succ groups ih =>
    rw [varintFrom, add_eq fits, pure_bind, Varint.decodeFrom]
    refine answer_bind fun byte there => ?_
    have before := Varint.lt_of_byteAt there
    dsimp only
    split
    · rw [add_eq (by omega)]
      rfl
    · exact ih (by omega) (.inr (by omega)) _ (by omega)

theorem varint_eq {bytes : Bytes} {offset : Nat} (small : bytes.size < sizeLimit) (start : offset < UInt64.size) :
    varint bytes offset = answer (Varint.decode bytes offset) :=
  varintFrom_eq small start rfl (.inl rfl) 0

theorem signedVarint_eq {bytes : Bytes} {offset : Nat} (small : bytes.size < sizeLimit) (start : offset < UInt64.size) :
    signedVarint bytes offset = answer (Varint.decodeSigned bytes offset) := by
  rw [signedVarint, varint_eq small start, Varint.decodeSigned]
  exact answer_bind fun _ _ => rfl

/-! ## Serial types -/

/-- `SerialType.ofRaw` with traps. -/
def serialType (raw : UInt64) : Trapping SerialType :=
  match raw.toNat with
  | 0 => pure .null
  | 1 => pure .int8
  | 2 => pure .int16
  | 3 => pure .int24
  | 4 => pure .int32
  | 5 => pure .int48
  | 6 => pure .int64
  | 7 => pure .float64
  | 8 => pure .zero
  | 9 => pure .one
  | 10 | 11 => throw (.unsupportedSerialType raw)
  | n => do
    let length := (← sub n 12) / 2
    return if n % 2 = 0 then .blob length else .text length

/-- `SerialType.raw` with traps. -/
def rawOf : SerialType → Trapping Nat
  | .null => pure 0
  | .int8 => pure 1
  | .int16 => pure 2
  | .int24 => pure 3
  | .int32 => pure 4
  | .int48 => pure 5
  | .int64 => pure 6
  | .float64 => pure 7
  | .zero => pure 8
  | .one => pure 9
  | .blob length => do add 12 (← mul 2 length)
  | .text length => do add 13 (← mul 2 length)

theorem serialType_eq (raw : UInt64) : serialType raw = answer (SerialType.ofRaw raw) := by
  unfold serialType SerialType.ofRaw
  generalize raw.toNat = n
  match n with
  | 0 | 1 | 2 | 3 | 4 | 5 | 6 | 7 | 8 | 9 | 10 | 11 => rfl
  | n + 12 =>
    show (sub (n + 12) 12 >>= fun rest =>
      pure (if (n + 12) % 2 = 0 then SerialType.blob (rest / 2) else .text (rest / 2))) = _
    rw [sub_eq (Nat.le_add_left 12 n)]
    rfl

theorem rawOf_eq {serialType : SerialType} (fits : serialType.raw < UInt64.size) :
    rawOf serialType = pure serialType.raw := by
  cases serialType with
  | blob length =>
    rw [SerialType.raw] at fits ⊢
    rw [rawOf, mul_eq (by omega), pure_bind, add_eq fits]
  | text length =>
    rw [SerialType.raw] at fits ⊢
    rw [rawOf, mul_eq (by omega), pure_bind, add_eq fits]
  | _ => rfl

end Trapping
end SqliteReader
