import SqliteReader.Proofs.Bytes
import SqliteReader.Proofs.Partial
import SqliteReader.Varint

/-!
# What a varint is and what it reads back

`Whole` says which runs of bytes are a varint, and of which number. Reading succeeds where such a run stands, and
nowhere else (`decode_eq_ok_iff`). What `encode` writes is one (`whole_encode`), so every number reads back
(`decode_of_holds`). The length of the varint grows with the number (`size_encode_le_iff`).
-/
namespace SqliteReader.Varint

/-! ## One byte -/

theorem byteAt_eq_ok_iff {bytes : Bytes} {offset : Nat} {byte : UInt8} :
    byteAt bytes offset = .ok byte ↔ bytes.Holds offset #[byte] := by
  have one : (#[byte] : Bytes).size = 1 := rfl
  simp only [byteAt, Bytes.holds_iff, one]
  constructor
  · intro there
    split at there
    · rename_i found
      cases there
      refine ⟨(Array.getElem?_eq_some_iff.1 found).1, fun i first => ?_⟩
      obtain rfl : i = 0 := by omega
      simpa using found
    · cases there
  · rintro ⟨-, same⟩
    have found := same 0 (by decide)
    rw [Nat.add_zero] at found
    simp [found]

theorem lt_of_byteAt {bytes : Bytes} {offset : Nat} {byte : UInt8} (there : byteAt bytes offset = .ok byte) :
    offset < bytes.size := by
  by_contra outside
  rw [byteAt, Array.getElem?_eq_none (by omega)] at there
  cases there

theorem byteAt_congr {bytes bytes' : Bytes} {offset : Nat} (size : bytes'.size = bytes.size)
    (same : bytes'[offset]? = bytes[offset]?) : byteAt bytes' offset = byteAt bytes offset := by
  rw [byteAt, byteAt, size, same]

/-- No byte before its offset is looked at to read a varint. -/
theorem decode_congr {bytes bytes' : Bytes} {offset : Nat} (size : bytes'.size = bytes.size)
    (same : ∀ i, offset ≤ i → bytes'[i]? = bytes[i]?) : decode bytes' offset = decode bytes offset := by
  have onward (groups used : Nat) (value : UInt64) :
      decodeFrom bytes' offset groups value used = decodeFrom bytes offset groups value used := by
    induction groups generalizing used value with
    | zero => rw [decodeFrom, decodeFrom, byteAt_congr size (same _ (Nat.le_add_right _ _))]
    | succ groups ih =>
      rw [decodeFrom, decodeFrom, byteAt_congr size (same _ (Nat.le_add_right _ _))]
      simp only [ih]
  exact onward _ _ _

theorem decodeSigned_congr {bytes bytes' : Bytes} {offset : Nat} (size : bytes'.size = bytes.size)
    (same : ∀ i, offset ≤ i → bytes'[i]? = bytes[i]?) : decodeSigned bytes' offset = decodeSigned bytes offset := by
  rw [decodeSigned, decodeSigned, decode_congr size same]

/-- A varint that is read ends inside its run. -/
theorem le_of_decode {bytes : Bytes} {offset used : Nat} {value : UInt64}
    (read : decode bytes offset = .ok (value, used)) : offset + used ≤ bytes.size := by
  -- Each byte that is taken is there, the last one too.
  have ends {groups before : Nat} {high : UInt64}
      (read : decodeFrom bytes offset groups high before = .ok (value, used)) : offset + used ≤ bytes.size := by
    induction groups generalizing before high with
    | zero =>
      obtain ⟨byte, there, read⟩ := Outcomes.ok_of_bind read
      have last := lt_of_byteAt there
      cases read
      omega
    | succ groups ih =>
      obtain ⟨byte, there, read⟩ := Outcomes.ok_of_bind read
      have last := lt_of_byteAt there
      dsimp only at read
      split at read
      · cases read
        omega
      · exact ih read
  exact ends read

/-- Seven bits go below the value read so far, as long as it has room for them. -/
theorem toNat_group {value : UInt64} {byte : UInt8} (room : value.toNat < 2 ^ 57) :
    (value <<< 7 ||| (byte &&& 0x7F).toUInt64).toNat = value.toNat * 128 + byte.toNat % 128 := by
  have low : byte.toNat &&& 127 = byte.toNat % 128 := Nat.and_two_pow_sub_one_eq_mod _ 7
  have shifted : value.toNat <<< 7 < 2 ^ 64 := by
    rw [Nat.shiftLeft_eq]
    omega
  have joined := Nat.shiftLeft_add_eq_or_of_lt (i := 7) (b := byte.toNat % 128) (by omega) value.toNat
  simp only [UInt64.toNat_or, UInt64.toNat_shiftLeft, UInt8.toNat_toUInt64, UInt8.toNat_and, UInt64.reduceToNat,
    UInt8.reduceToNat, Nat.reduceMod, Nat.mod_eq_of_lt shifted, low]
  rw [← joined, Nat.shiftLeft_eq]

theorem toNat_last {value : UInt64} {byte : UInt8} (room : value.toNat < 2 ^ 56) :
    (value <<< 8 ||| byte.toUInt64).toNat = value.toNat * 256 + byte.toNat := by
  have small := byte.toNat_lt
  have shifted : value.toNat <<< 8 < 2 ^ 64 := by
    rw [Nat.shiftLeft_eq]
    omega
  have joined := Nat.shiftLeft_add_eq_or_of_lt (i := 8) small value.toNat
  simp only [UInt64.toNat_or, UInt64.toNat_shiftLeft, UInt8.toNat_toUInt64, UInt64.reduceToNat, Nat.reduceMod,
    Nat.mod_eq_of_lt shifted]
  rw [← joined, Nat.shiftLeft_eq]

/-! ## Whole varints -/

/-- The number that the low seven bits of the bytes write. -/
def sevens (bytes : Bytes) : Nat := bytes.foldl (fun n byte => n * 128 + byte.toNat % 128) 0

@[simp] theorem sevens_empty : sevens #[] = 0 := rfl

@[simp] theorem sevens_push (front : Bytes) (byte : UInt8) :
    sevens (front.push byte) = sevens front * 128 + byte.toNat % 128 := by simp [sevens]

theorem sevens_lt (bytes : Bytes) : sevens bytes < 128 ^ bytes.size := by
  generalize wide : bytes.size = width
  induction width generalizing bytes with
  | zero =>
    rw [Array.eq_empty_of_size_eq_zero wide]
    decide
  | succ width ih =>
    obtain ⟨front, byte, rfl⟩ := Array.exists_push_of_size_eq_add_one wide
    have before := ih front (by simpa using wide)
    rw [sevens_push, Nat.pow_succ]
    omega

/-- Seven bytes leave room for another group, and eight for a last byte. -/
theorem sevens_lt_of_le {front : Bytes} {count : Nat} (few : front.size ≤ count) : sevens front < 128 ^ count :=
  Nat.lt_of_lt_of_le (sevens_lt front) (Nat.pow_le_pow_right (by decide) few)

theorem word_push {front : Bytes} (byte : UInt8) (few : front.size < 8) :
    UInt64.ofNat (sevens front) <<< 7 ||| (byte &&& 0x7F).toUInt64 = UInt64.ofNat (sevens (front.push byte)) := by
  have below := sevens_lt_of_le (Nat.le_of_lt_succ few)
  have read : (UInt64.ofNat (sevens front)).toNat = sevens front := UInt64.toNat_ofNat_of_lt' (show _ < 2 ^ 64 by omega)
  apply UInt64.toNat_inj.1
  rw [toNat_group (by omega), read, sevens_push, UInt64.toNat_ofNat_of_lt' (show _ < 2 ^ 64 by omega)]

theorem word_last {front : Bytes} (byte : UInt8) (few : front.size ≤ 8) :
    UInt64.ofNat (sevens front) <<< 8 ||| byte.toUInt64 = UInt64.ofNat (sevens front * 256 + byte.toNat) := by
  have below := sevens_lt_of_le few
  have small := byte.toNat_lt
  have read : (UInt64.ofNat (sevens front)).toNat = sevens front := UInt64.toNat_ofNat_of_lt' (show _ < 2 ^ 64 by omega)
  apply UInt64.toNat_inj.1
  rw [toNat_last (by omega), read, UInt64.toNat_ofNat_of_lt' (show _ < 2 ^ 64 by omega)]

/-- Every byte says that another one follows. -/
def Marked (bytes : Bytes) : Prop := ∀ byte ∈ bytes, 0x80 ≤ byte

instance (bytes : Bytes) : Decidable (Marked bytes) :=
  decidable_of_iff (bytes.toList.all (0x80 ≤ ·) = true) (by simp [Marked, Array.forall_mem_iff_forall_getElem])

@[simp] theorem marked_empty : Marked #[] := by simp [Marked]

theorem marked_push {front : Bytes} {byte : UInt8} : Marked (front.push byte) ↔ Marked front ∧ 0x80 ≤ byte := by
  simp only [Marked, Array.mem_push]
  constructor
  · intro all
    exact ⟨fun other inside => all other (.inl inside), all byte (.inr rfl)⟩
  · rintro ⟨before, last⟩ other (inside | rfl)
    · exact before other inside
    · exact last

/-- A run is one varint of a number: bytes that say that another one follows, and a last byte that does not, or
that is the ninth and gives all its bits. -/
inductive Whole : Bytes → Nat → Prop
  | short {front : Bytes} {last : UInt8} (marked : Marked front) (few : front.size < 8) (ends : last < 0x80) :
    Whole (front.push last) (sevens front * 128 + last.toNat)
  | long {front : Bytes} {last : UInt8} (marked : Marked front) (full : front.size = 8) :
    Whole (front.push last) (sevens front * 256 + last.toNat)

theorem Whole.size_pos {run : Bytes} {n : Nat} (whole : Whole run n) : 0 < run.size := by
  cases whole <;> simp

theorem Whole.size_le {run : Bytes} {n : Nat} (whole : Whole run n) : run.size ≤ 9 := by
  cases whole <;> rw [Array.size_push] <;> omega

theorem Whole.lt {run : Bytes} {n : Nat} (whole : Whole run n) : n < 2 ^ 64 := by
  cases whole with
  | @short front last marked few ends =>
    have below := sevens_lt_of_le (Nat.le_of_lt_succ few)
    have small := last.toNat_lt
    omega
  | @long front last marked full =>
    have below := sevens_lt_of_le (Nat.le_of_eq full)
    have small := last.toNat_lt
    omega

theorem holds_push {bytes front : Bytes} {offset : Nat} {byte : UInt8} :
    bytes.Holds offset (front.push byte) ↔ bytes.Holds offset front ∧ byteAt bytes (offset + front.size) = .ok byte := by
  rw [Array.push_eq_append, Bytes.holds_append, byteAt_eq_ok_iff]

/-! ## Reading them -/

/-- Bytes that say that another one follows are read one by one. -/
theorem decodeFrom_marked {bytes front : Bytes} {offset : Nat} (groups : Nat) (marked : Marked front)
    (few : groups + front.size ≤ 8) (held : bytes.Holds offset front) :
    decodeFrom bytes offset (groups + front.size) 0 0 =
      decodeFrom bytes offset groups (UInt64.ofNat (sevens front)) front.size := by
  generalize wide : front.size = width at *
  induction width generalizing front groups with
  | zero =>
    rw [Array.eq_empty_of_size_eq_zero wide]
    rfl
  | succ width ih =>
    obtain ⟨front, byte, rfl⟩ := Array.exists_push_of_size_eq_add_one wide
    obtain rfl : front.size = width := by simpa using wide
    obtain ⟨marked, last⟩ := marked_push.1 marked
    obtain ⟨held, there⟩ := holds_push.1 held
    have more : ¬ byte < 0x80 := UInt8.not_lt.2 last
    have step : groups + (front.size + 1) = groups + 1 + front.size := by omega
    rw [step, ih (groups + 1) marked held rfl (by omega), decodeFrom, there]
    simp only [bind, Except.bind, more, if_false, word_push byte (show front.size < 8 by omega)]

/-- A varint that stands at `offset` is read, with its length. -/
theorem decode_of_whole {bytes run : Bytes} {offset n : Nat} (whole : Whole run n) (held : bytes.Holds offset run) :
    decode bytes offset = .ok (UInt64.ofNat n, run.size) := by
  cases whole with
  | @short front last marked few ends =>
    obtain ⟨held, there⟩ := holds_push.1 held
    obtain ⟨groups, split⟩ : ∃ groups, groups + 1 + front.size = 8 := ⟨7 - front.size, by omega⟩
    have before := decodeFrom_marked (groups + 1) marked (by omega) held
    have low : last.toNat < 128 := ends
    rw [split] at before
    rw [decode, maxLength, before, decodeFrom, there]
    simp only [bind, Except.bind, pure, Except.pure, ends, if_true, word_push last few, sevens_push, Nat.mod_eq_of_lt low,
      Array.size_push]
  | @long front last marked full =>
    obtain ⟨held, there⟩ := holds_push.1 held
    have before := decodeFrom_marked 0 marked (by omega) held
    rw [full, Nat.zero_add] at before
    rw [full] at there
    rw [decode, maxLength, before, decodeFrom, there]
    simp only [bind, Except.bind, pure, Except.pure, word_last last (Nat.le_of_eq full), Array.size_push, full]

/-- What is read behind bytes that say that another one follows ends a varint. -/
theorem whole_of_decodeFrom {bytes front : Bytes} {offset groups used : Nat} {value : UInt64}
    (marked : Marked front) (all : front.size + groups = 8) (held : bytes.Holds offset front)
    (read : decodeFrom bytes offset groups (UInt64.ofNat (sevens front)) front.size = .ok (value, used)) :
    ∃ run n, Whole run n ∧ bytes.Holds offset run ∧ value = UInt64.ofNat n ∧ used = run.size := by
  induction groups generalizing front with
  | zero =>
    obtain ⟨last, there, read⟩ := Outcomes.ok_of_bind read
    cases read
    exact ⟨front.push last, _, .long marked all, holds_push.2 ⟨held, there⟩, word_last last (Nat.le_of_eq all),
      (Array.size_push _).symm⟩
  | succ groups ih =>
    obtain ⟨byte, there, read⟩ := Outcomes.ok_of_bind read
    have few : front.size < 8 := by omega
    dsimp only at read
    rw [word_push byte few] at read
    split at read
    · rename_i ends
      have low : byte.toNat < 128 := ends
      cases read
      refine ⟨front.push byte, _, .short marked few ends, holds_push.2 ⟨held, there⟩, ?_, (Array.size_push _).symm⟩
      rw [sevens_push, Nat.mod_eq_of_lt low]
    · rename_i more
      rw [← Array.size_push byte] at read
      refine ih (marked_push.2 ⟨marked, UInt8.not_lt.1 more⟩) ?_ (holds_push.2 ⟨held, there⟩) read
      rw [Array.size_push]
      omega

/-- Reading succeeds where a varint stands, and nowhere else. -/
theorem decode_eq_ok_iff {bytes : Bytes} {offset used : Nat} {value : UInt64} :
    decode bytes offset = .ok (value, used) ↔
      ∃ run, Whole run value.toNat ∧ bytes.Holds offset run ∧ used = run.size := by
  constructor
  · intro read
    have inside := le_of_decode read
    have start : bytes.Holds offset #[] := Bytes.holds_iff.2 ⟨by simp only [Array.size_empty]; omega, by simp⟩
    obtain ⟨run, n, whole, held, rfl, rfl⟩ := whole_of_decodeFrom marked_empty rfl start read
    exact ⟨run, by rwa [UInt64.toNat_ofNat_of_lt' whole.lt], held, rfl⟩
  · rintro ⟨run, whole, held, rfl⟩
    rw [decode_of_whole whole held, UInt64.ofNat_toNat]

theorem decodeSigned_eq_ok_iff {bytes : Bytes} {offset used : Nat} {value : Int64} :
    decodeSigned bytes offset = .ok (value, used) ↔
      ∃ run, Whole run value.toUInt64.toNat ∧ bytes.Holds offset run ∧ used = run.size := by
  rw [← decode_eq_ok_iff]
  constructor
  · intro read
    obtain ⟨⟨unsigned, length⟩, read, same⟩ := Outcomes.ok_of_bind read
    cases same
    exact read
  · intro read
    rw [decodeSigned, read]
    rfl

/-- Reading fails only where the bytes end. -/
theorem eq_of_decode_error {bytes : Bytes} {offset : Nat} {error : Error} (failed : decode bytes offset = .error error) :
    ∃ place, error = .outOfBounds .varint place bytes.size := by
  have absent {place : Nat} {error : Error} (failed : byteAt bytes place = .error error) :
      error = .outOfBounds .varint place bytes.size := by
    unfold byteAt at failed
    split at failed <;> cases failed
    rfl
  have onward {groups used : Nat} {high : UInt64} (failed : decodeFrom bytes offset groups high used = .error error) :
      ∃ place, error = .outOfBounds .varint place bytes.size := by
    induction groups generalizing used high with
    | zero =>
      obtain failed | ⟨byte, -, failed⟩ := Outcomes.error_of_bind failed
      · exact ⟨_, absent failed⟩
      · cases failed
    | succ groups ih =>
      obtain failed | ⟨byte, -, failed⟩ := Outcomes.error_of_bind failed
      · exact ⟨_, absent failed⟩
      · dsimp only at failed
        split at failed
        · cases failed
        · exact ih failed
  exact onward failed

theorem eq_of_decodeSigned_error {bytes : Bytes} {offset : Nat} {error : Error}
    (failed : decodeSigned bytes offset = .error error) : ∃ place, error = .outOfBounds .varint place bytes.size := by
  obtain failed | ⟨_, -, failed⟩ := Outcomes.error_of_bind failed
  · exact eq_of_decode_error failed
  · cases failed

/-! ## Groups -/

@[simp] theorem length_padded (count n : Nat) : (padded count n).length = count := by
  induction count generalizing n with
  | zero => rfl
  | succ count ih => simp [padded, ih]

theorem leading_eq_padded (n : Nat) : leading n = padded (leading n).length n := by
  induction n using leading.induct with
  | case1 => simp [leading, padded]
  | case2 n nonzero ih =>
    rw [leading, if_neg nonzero, List.length_append, List.length_singleton, padded, ← ih]

theorem length_leading_le_iff (n count : Nat) : (leading n).length ≤ count ↔ n < 128 ^ count := by
  induction count generalizing n with
  | zero =>
    rw [leading]
    split <;> simp [*]
  | succ count ih =>
    rw [leading]
    split
    · have := Nat.pow_pos (n := count + 1) (show 0 < 128 by decide)
      simp [*]
    · rw [List.length_append, List.length_singleton, Nat.add_le_add_iff_right, ih, Nat.pow_succ,
        Nat.div_lt_iff_lt_mul (by decide)]

/-- Groups say that another byte follows, and write the low bits of their number. -/
theorem padded_spec (count n : Nat) :
    Marked (padded count n).toArray ∧ sevens (padded count n).toArray = n % 128 ^ count := by
  induction count generalizing n with
  | zero => simp [padded, Nat.mod_one]
  | succ count ih =>
    obtain ⟨marked, number⟩ := ih (n / 128)
    have wide : 128 ^ (count + 1) = 128 * 128 ^ count := Nat.pow_succ'
    rw [padded, ← List.push_toArray, marked_push, sevens_push, number, UInt8.toNat_ofNat', wide, Nat.mod_mul]
    refine ⟨⟨marked, ?_⟩, by omega⟩
    rw [UInt8.le_iff_toNat_le, UInt8.toNat_ofNat']
    simp only [UInt8.reduceToNat]
    omega

/-! ## The shortest varint -/

theorem wideFrom_eq : wideFrom = 2 ^ 56 := rfl

theorem encode_of_lt {value : UInt64} (small : value.toNat < 2 ^ 56) :
    encode value = (leading (value.toNat / 128)).toArray.push (UInt8.ofNat (value.toNat % 128)) := by
  rw [encode, wideFrom_eq, if_pos small, List.push_toArray]

theorem encode_of_le {value : UInt64} (large : 2 ^ 56 ≤ value.toNat) :
    encode value = (padded 8 (value.toNat / 256)).toArray.push (UInt8.ofNat value.toNat) := by
  rw [encode, wideFrom_eq, if_neg (Nat.not_lt.2 large), List.push_toArray]

/-- What is written of a number is a varint of it. -/
theorem whole_encode (value : UInt64) : Whole (encode value) value.toNat := by
  have below := value.toNat_lt
  by_cases small : value.toNat < 2 ^ 56
  · have few := (length_leading_le_iff (value.toNat / 128) 7).2 (by omega)
    have fits := (length_leading_le_iff (value.toNat / 128) _).1 (Nat.le_refl _)
    rw [encode_of_lt small, leading_eq_padded]
    generalize (leading (value.toNat / 128)).length = count at few fits
    obtain ⟨marked, number⟩ := padded_spec count (value.toNat / 128)
    have ends : UInt8.ofNat (value.toNat % 128) < 0x80 := by
      simp only [UInt8.lt_iff_toNat_lt, UInt8.toNat_ofNat', UInt8.reduceToNat]
      omega
    have whole := Whole.short marked (by rw [List.size_toArray, length_padded]; omega) ends
    rw [number, Nat.mod_eq_of_lt fits, UInt8.toNat_ofNat'] at whole
    convert whole using 1
    omega
  · obtain ⟨marked, number⟩ := padded_spec 8 (value.toNat / 256)
    rw [encode_of_le (Nat.not_lt.1 small)]
    have whole := @Whole.long _ (UInt8.ofNat value.toNat) marked (by rw [List.size_toArray, length_padded])
    rw [number, UInt8.toNat_ofNat'] at whole
    convert whole using 1
    omega

/-- The number whose shortest varint stands at `offset` reads back, with the length of that varint. -/
theorem decode_of_holds {bytes : Bytes} {offset : Nat} {value : UInt64} (held : bytes.Holds offset (encode value)) :
    decode bytes offset = .ok (value, (encode value).size) := by
  rw [decode_of_whole (whole_encode value) held, UInt64.ofNat_toNat]

/-! ## Lengths -/

/-- `count` bytes are enough below `128 ^ count`, short of the ninth byte. -/
theorem size_encode_le_iff (value : UInt64) (count : Nat) (positive : 0 < count) (few : count ≤ 8) :
    (encode value).size ≤ count ↔ value.toNat < 128 ^ count := by
  obtain ⟨count, rfl⟩ := Nat.exists_eq_add_of_lt positive
  simp only [Nat.zero_add] at few ⊢
  by_cases small : value.toNat < 2 ^ 56
  · have groups := length_leading_le_iff (value.toNat / 128) count
    rw [encode_of_lt small, Array.size_push, List.size_toArray, Nat.pow_succ, ← Nat.div_lt_iff_lt_mul (by decide),
      Nat.add_le_add_iff_right]
    exact groups
  · have most : 128 ^ (count + 1) ≤ 128 ^ 8 := Nat.pow_le_pow_right (by decide) few
    rw [encode_of_le (by omega), Array.size_push, List.size_toArray, length_padded]
    omega

theorem size_encode_pos (value : UInt64) : 0 < (encode value).size := (whole_encode value).size_pos

theorem size_encode_le (value : UInt64) : (encode value).size ≤ 9 := (whole_encode value).size_le

theorem size_encode_of_le {value : UInt64} (large : 2 ^ 56 ≤ value.toNat) : (encode value).size = 9 := by
  rw [encode_of_le large]
  simp

theorem size_encode_mono {value other : UInt64} (least : value.toNat ≤ other.toNat) :
    (encode value).size ≤ (encode other).size := by
  have most := size_encode_le value
  have positive := size_encode_pos other
  by_cases few : (encode other).size ≤ 8
  · have below := (size_encode_le_iff other _ positive few).1 (Nat.le_refl _)
    exact (size_encode_le_iff value _ positive few).2 (by omega)
  · omega

/-- Eight more than a number make its varint longer by one byte at most. -/
theorem size_encode_le_succ {value other : UInt64} (near : other.toNat ≤ value.toNat + 8) :
    (encode other).size ≤ (encode value).size + 1 := by
  have most := size_encode_le other
  have positive := size_encode_pos value
  by_cases few : (encode value).size ≤ 7
  · have below := (size_encode_le_iff value _ positive (by omega)).1 (Nat.le_refl _)
    have wide : 128 ^ ((encode value).size + 1) = 128 * 128 ^ (encode value).size := Nat.pow_succ'
    refine (size_encode_le_iff other _ (by omega) (by omega)).2 ?_
    omega
  · omega

/-- The length computed from the number of bits is that of the varint. -/
theorem encodedLength_eq (value : UInt64) : encodedLength value = (encode value).size := by
  have shortest := size_encode_pos value
  rw [encodedLength, wideFrom_eq]
  by_cases small : value.toNat < 2 ^ 56
  · have short := (size_encode_le_iff value 8 (by decide) (Nat.le_refl _)).2 (by omega)
    rw [if_pos small]
    split
    · have one := (size_encode_le_iff value 1 (by decide) (by decide)).2 (by omega)
      omega
    · rename_i nonzero
      -- Both lengths are at most `count` for the same numbers.
      have bits (count : Nat) (positive : 0 < count) (few : count ≤ 8) :
          (value.toNat.log2 + 1 + 6) / 7 ≤ count ↔ (encode value).size ≤ count := by
        have groups : 128 ^ count = 2 ^ (7 * count) := by rw [Nat.pow_mul]
        rw [size_encode_le_iff value _ positive few, groups, ← Nat.log2_lt nonzero]
        omega
      have most := (bits 8 (by decide) (Nat.le_refl _)).2 short
      apply Nat.le_antisymm
      · exact (bits _ shortest short).2 (Nat.le_refl _)
      · exact (bits _ (by omega) most).1 (Nat.le_refl _)
  · rw [if_neg small, size_encode_of_le (by omega), maxLength]

end SqliteReader.Varint
