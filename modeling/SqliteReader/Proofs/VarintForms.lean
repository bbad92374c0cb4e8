import SqliteReader.Proofs.Varint

/-!
# The forms of a varint

A number has a varint of each length that has room for it, the longer ones padded with zeros. A varint is read wherever
one ends (`Ends`), whatever stands around it, and else the bytes run out (`decode_eq_error_iff`). Two varints of one
number that have the same length are the same (`Whole.unique`) and none is shorter than the one that is written
(`Whole.size_encode_le`). So the written one is the only shortest varint of its number (`shortest_of_all_forms`), and it
reads back in front of any bytes and behind any (`reads_back_in_context`).
-/
namespace SqliteReader.Varint

/-! ## Where reading ends -/

/-- A varint that starts at `offset` ends in the bytes: at one of its first eight bytes, which has no high bit, or at the
ninth, whatever this is. -/
def Ends (bytes : Bytes) (offset : Nat) : Prop :=
  (∃ i < 8, (∀ j < i, offset + j < bytes.size) ∧ ∃ byte, bytes[offset + i]? = some byte ∧ byte < 0x80) ∨
    offset + 9 ≤ bytes.size

section
variable {bytes : Bytes} {offset groups used : Nat} {value : UInt64}

/-- Reading that comes to a byte without high bit, or to the last byte there can be, succeeds. -/
theorem exists_decodeFrom (ends : (∃ i < groups, ∃ byte, bytes[offset + used + i]? = some byte ∧ byte < 0x80) ∨
    offset + used + groups < bytes.size) : ∃ read, decodeFrom bytes offset groups value used = .ok read := by
  induction groups generalizing used value with
  | zero =>
    have inside : offset + used < bytes.size := by
      rcases ends with ⟨i, below, -⟩ | inside
      · omega
      · exact inside
    rw [decodeFrom, byteAt, Array.getElem?_eq_getElem inside]
    exact ⟨_, rfl⟩
  | succ groups ih =>
    have inside : offset + used < bytes.size := by
      rcases ends with ⟨i, below, byte, there, -⟩ | inside
      · have := (Array.getElem?_eq_some_iff.1 there).1
        omega
      · omega
    have there := Array.getElem?_eq_getElem inside
    rw [decodeFrom, byteAt, there]
    simp only [bind, Except.bind]
    split
    · exact ⟨_, rfl⟩
    · rename_i more
      refine ih ?_
      rcases ends with ⟨i, below, byte, last, high⟩ | inside
      · cases i with
        | zero =>
          rw [Nat.add_zero, there] at last
          cases last
          exact absurd high more
        | succ i => exact .inl ⟨i, by omega, byte, by rw [← last]; congr 1; omega, high⟩
      · exact .inr (by omega)

/-- Reading that comes to no such byte fails where the bytes end, or at once when it starts behind them. -/
theorem decodeFrom_eq_error (goesOn : ∀ i < groups, ∀ byte, bytes[offset + used + i]? = some byte → ¬ byte < 0x80)
    (short : bytes.size ≤ offset + used + groups) : decodeFrom bytes offset groups value used =
      .error (.outOfBounds .varint (max (offset + used) bytes.size) bytes.size) := by
  induction groups generalizing used value with
  | zero =>
    rw [Nat.add_zero] at short
    rw [decodeFrom, byteAt, Array.getElem?_eq_none short, Nat.max_eq_left short]
    rfl
  | succ groups ih =>
    by_cases inside : offset + used < bytes.size
    · have there := Array.getElem?_eq_getElem inside
      have more := goesOn 0 (Nat.succ_pos _) _ there
      have later := @ih (used + 1) (value <<< 7 ||| (bytes[offset + used] &&& 0x7F).toUInt64)
        (fun i below byte there => goesOn (i + 1) (by omega) byte (by rw [← there]; congr 1; omega)) (by omega)
      rw [decodeFrom, byteAt, there]
      simp only [bind, Except.bind, more, if_false]
      rw [later, Nat.max_eq_right (by omega), Nat.max_eq_right (by omega)]
    · rw [decodeFrom, byteAt, Array.getElem?_eq_none (Nat.not_lt.1 inside), Nat.max_eq_left (Nat.not_lt.1 inside)]
      rfl

theorem exists_decode_of_ends (ends : Ends bytes offset) : ∃ read, decode bytes offset = .ok read := by
  refine exists_decodeFrom ?_
  rcases ends with ⟨i, below, -, byte, there, high⟩ | inside
  · exact .inl ⟨i, below, byte, there, high⟩
  · exact .inr inside

theorem decode_of_not_ends (endless : ¬ Ends bytes offset) :
    decode bytes offset = .error (.outOfBounds .varint (max offset bytes.size) bytes.size) := by
  refine decodeFrom_eq_error (fun i below byte there high => endless (.inl ⟨i, below, fun j before => ?_, byte, there, high⟩))
    (Nat.not_lt.1 fun inside => endless (.inr inside))
  have := (Array.getElem?_eq_some_iff.1 there).1
  omega

theorem exists_decode_iff : (∃ value used, decode bytes offset = .ok (value, used)) ↔ Ends bytes offset := by
  constructor
  · rintro ⟨value, used, read⟩
    by_contra endless
    rw [decode_of_not_ends endless] at read
    cases read
  · intro ends
    obtain ⟨⟨value, used⟩, read⟩ := exists_decode_of_ends ends
    exact ⟨value, used, read⟩

theorem decode_eq_error_iff {error : Error} : decode bytes offset = .error error ↔
    ¬ Ends bytes offset ∧ error = .outOfBounds .varint (max offset bytes.size) bytes.size := by
  constructor
  · intro failed
    have endless : ¬ Ends bytes offset := fun ends => by
      obtain ⟨read, done⟩ := exists_decode_of_ends ends
      rw [done] at failed
      cases failed
    rw [decode_of_not_ends endless] at failed
    cases failed
    exact ⟨endless, rfl⟩
  · rintro ⟨endless, rfl⟩
    exact decode_of_not_ends endless

end

/-! ## All varints of a number -/

/-- As many bytes that say that another one follows, and write the same number, are the same. -/
theorem eq_of_sevens {front front' : Bytes} (marked : Marked front) (marked' : Marked front')
    (size : front.size = front'.size) (same : sevens front = sevens front') : front = front' := by
  generalize wide : front.size = width at size
  induction width generalizing front front' with
  | zero => rw [Array.eq_empty_of_size_eq_zero wide, Array.eq_empty_of_size_eq_zero size.symm]
  | succ width ih =>
    obtain ⟨front, byte, rfl⟩ := Array.exists_push_of_size_eq_add_one wide
    obtain ⟨front', byte', rfl⟩ := Array.exists_push_of_size_eq_add_one size.symm
    obtain ⟨marked, high⟩ := marked_push.1 marked
    obtain ⟨marked', high'⟩ := marked_push.1 marked'
    rw [Array.size_push] at wide size
    rw [sevens_push, sevens_push] at same
    have high : 128 ≤ byte.toNat := high
    have high' : 128 ≤ byte'.toNat := high'
    have small := byte.toNat_lt
    have small' := byte'.toNat_lt
    have fronts := ih marked marked' (by omega) (by omega) (by omega)
    have lasts : byte = byte' := UInt8.toNat_inj.1 (by omega)
    rw [fronts, lasts]

namespace Whole
variable {run run' : Bytes} {n : Nat} {value : UInt64}

/-- A number has one varint of each length at most. -/
theorem unique (whole : Whole run n) (whole' : Whole run' n) (size : run.size = run'.size) : run = run' := by
  generalize same : n = n' at whole'
  cases whole with
  | @short front last marked few ends =>
    cases whole' with
    | @short front' last' marked' few' ends' =>
      have low : last.toNat < 128 := ends
      have low' : last'.toNat < 128 := ends'
      simp only [Array.size_push] at size
      have fronts := eq_of_sevens marked marked' (by omega) (by omega)
      have lasts : last = last' := UInt8.toNat_inj.1 (by omega)
      rw [fronts, lasts]
    | long marked' full' =>
      simp only [Array.size_push] at size
      omega
  | @long front last marked full =>
    cases whole' with
    | short marked' few' ends' =>
      simp only [Array.size_push] at size
      omega
    | @long front' last' marked' full' =>
      have small := last.toNat_lt
      have small' := last'.toNat_lt
      have fronts := eq_of_sevens marked marked' (full.trans full'.symm) (by omega)
      have lasts : last = last' := UInt8.toNat_inj.1 (by omega)
      rw [fronts, lasts]

/-- No varint of a number is shorter than the one that is written. -/
theorem size_encode_le (whole : Whole run value.toNat) : (encode value).size ≤ run.size := by
  by_cases few : run.size ≤ 8
  · rw [size_encode_le_iff value run.size whole.size_pos few]
    generalize value.toNat = n at whole
    cases whole with
    | @short front last marked _ ends =>
      have below := sevens_lt front
      have low : last.toNat < 128 := ends
      rw [Array.size_push, Nat.pow_succ]
      omega
    | long marked full =>
      rw [Array.size_push] at few
      omega
  · have most := Varint.size_encode_le value
    omega

theorem size_encode_eq_iff (whole : Whole run value.toNat) : (encode value).size = run.size ↔ run = encode value := by
  constructor
  · intro size
    exact whole.unique (whole_encode value) size.symm
  · intro same
    rw [same]

end Whole

/-! ## In context -/

theorem decodeSigned_of_decode {bytes : Bytes} {offset used : Nat} {value : UInt64}
    (read : decode bytes offset = .ok (value, used)) : decodeSigned bytes offset = .ok (value.toInt64, used) := by
  rw [decodeSigned, read]
  rfl

/-- Whatever stands before the varint of a number and behind it, the number is read back. The varint is one to nine bytes
long, as computed from the number. Read with a sign it has the same bits, so each row id comes back. -/
theorem reads_back_in_context (before after : Bytes) (value : UInt64) :
    decode (before ++ encode value ++ after) before.size = .ok (value, (encode value).size) ∧
      (encode value).size = encodedLength value ∧ 1 ≤ encodedLength value ∧ encodedLength value ≤ 9 ∧
      decodeSigned (before ++ encode value ++ after) before.size = .ok (value.toInt64, (encode value).size) ∧
      ∀ rowId : RowId, decodeSigned (before ++ encode rowId.toUInt64 ++ after) before.size =
        .ok (rowId, (encode rowId.toUInt64).size) := by
  have read (value : UInt64) := decode_of_holds (Bytes.holds_middle before (encode value) after)
  refine ⟨read value, (encodedLength_eq value).symm, ?_, ?_, decodeSigned_of_decode (read value), fun rowId => ?_⟩
  · rw [encodedLength_eq]
    exact size_encode_pos value
  · rw [encodedLength_eq]
    exact size_encode_le value
  · have signed := decodeSigned_of_decode (read rowId.toUInt64)
    rwa [Int64.toInt64_toUInt64] at signed

/-- A varint is read just where one ends, and else the error tells where the bytes end. What is read depends on the
bytes of the varint alone. The number is written in no more bytes, and in as many only when it is written in the same
ones, so what is written is the only shortest varint of a number. -/
theorem shortest_of_all_forms (bytes : Bytes) (offset : Nat) :
    ((∃ value used, decode bytes offset = .ok (value, used)) ↔ Ends bytes offset) ∧
    (∀ error, decode bytes offset = .error error ↔
      ¬ Ends bytes offset ∧ error = .outOfBounds .varint (max offset bytes.size) bytes.size) ∧
    (∀ value used, decode bytes offset = .ok (value, used) →
      1 ≤ used ∧ used ≤ 9 ∧ offset + used ≤ bytes.size ∧
      (∀ bytes' offset', bytes'.Holds offset' (bytes.extract offset (offset + used)) →
        decode bytes' offset' = .ok (value, used)) ∧
      (encode value).size ≤ used ∧
      ((encode value).size = used ↔ bytes.extract offset (offset + used) = encode value)) ∧
    ∀ value, decode (encode value) 0 = .ok (value, (encode value).size) ∧
      ∀ run, decode run 0 = .ok (value, run.size) → run = encode value ∨ (encode value).size < run.size := by
  refine ⟨exists_decode_iff, fun error => decode_eq_error_iff, fun value used read => ?_, fun value => ⟨?_, fun run read => ?_⟩⟩
  · obtain ⟨run, whole, held, rfl⟩ := decode_eq_ok_iff.1 read
    rw [held.extract_eq]
    refine ⟨whole.size_pos, whole.size_le, held.le_size, fun bytes' offset' held' => ?_, whole.size_encode_le, ?_⟩
    · exact decode_eq_ok_iff.2 ⟨run, whole, held', rfl⟩
    · exact whole.size_encode_eq_iff
  · exact decode_of_holds (Bytes.holds_self _)
  · obtain ⟨run', whole, held, size⟩ := decode_eq_ok_iff.1 read
    have all := held.extract_eq
    rw [Nat.zero_add, ← size, Array.extract_size] at all
    rw [← all] at whole
    rcases Nat.lt_or_eq_of_le whole.size_encode_le with shorter | same
    · exact .inr shorter
    · exact .inl (whole.size_encode_eq_iff.1 same)

/-- The number five, padded to three bytes that stand behind others. -/
theorem shortest_of_all_forms_padded : decode #[255, 128, 128, 5, 9] 1 = .ok (5, 3) ∧
    (∀ front back, decode (front ++ #[128, 128, 5] ++ back) front.size = .ok (5, 3)) ∧
    (encode 5).size ≤ 3 ∧ (encode 5).size ≠ 3 ∧
    decode #[255, 128, 128] 1 = .error (.outOfBounds .varint 3 3) := by
  have read : decode #[255, 128, 128, 5, 9] 1 = .ok (5, 3) := by decide +kernel
  obtain ⟨-, -, -, same, shorter, exact⟩ := (shortest_of_all_forms #[255, 128, 128, 5, 9] 1).2.2.1 5 3 read
  have padded : encode 5 ≠ #[128, 128, 5] := by decide +kernel
  refine ⟨read, fun front back => ?_, shorter, fun equal => padded (exact.1 equal).symm, ?_⟩
  · exact same _ _ (Bytes.holds_middle front #[128, 128, 5] back)
  · refine ((shortest_of_all_forms #[255, 128, 128] 1).2.1 _).2 ⟨?_, rfl⟩
    rintro (⟨i, -, -, byte, there, high⟩ | inside)
    · rcases i with _ | _ | i
      · cases there
        exact absurd high (by decide)
      · cases there
        exact absurd high (by decide)
      · rw [Array.getElem?_eq_none (show 3 ≤ 1 + (i + 1 + 1) by omega)] at there
        cases there
    · exact absurd inside (by decide)

end SqliteReader.Varint
