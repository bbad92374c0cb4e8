import SqliteReader.Proofs.FileHeader

/-!
# Headers as they are stored

Which hundred bytes are a header is told by `Stored`, and reading accepts these and no others
(`exists_ofBytes_iff`). A header that was read is written back as it was stored, but for a file whose text
encoding was never set (`toBytes_of_ofBytes`). Both together make reading and writing inverse (`header_codec`).
-/
namespace SqliteReader

/-! ## Text encodings -/

/-- There are four numbers of text encodings, and two of them mean UTF-8. -/
theorem TextEncoding.ofStored_eq_ok_iff {stored : Nat} {encoding : TextEncoding} :
    ofStored stored = .ok encoding ↔ stored ≤ 3 ∧ encoding.stored = (if stored = 0 then 1 else stored) := by
  match stored with
  | 0 => cases encoding <;> simp [ofStored, TextEncoding.stored]
  | 1 => cases encoding <;> simp [ofStored, TextEncoding.stored]
  | 2 => cases encoding <;> simp [ofStored, TextEncoding.stored]
  | 3 => cases encoding <;> simp [ofStored, TextEncoding.stored]
  | more + 4 => simp [ofStored]

theorem TextEncoding.exists_ofStored_iff {stored : Nat} :
    (∃ encoding, ofStored stored = .ok encoding) ↔ stored ≤ 3 := by
  constructor
  · rintro ⟨encoding, read⟩
    exact (ofStored_eq_ok_iff.1 read).1
  · intro known
    match stored, known with
    | 0, _ | 1, _ => exact ⟨utf8, rfl⟩
    | 2, _ => exact ⟨utf16Little, rfl⟩
    | 3, _ => exact ⟨utf16Big, rfl⟩

namespace FileHeader

/-! ## Page sizes -/

/-- The numbers that a page size is stored as: a power of two, or one in place of the largest. -/
def StoredPageSize (stored : Nat) : Prop := stored = 1 ∨ 512 ≤ stored ∧ stored ≤ 32768 ∧ ∃ k, stored = 2 ^ k

/-- A power of two that two bytes hold is at most half of what they can hold. -/
theorem pow_le_of_lt {k n : Nat} (below : 2 ^ k < 2 ^ (n + 1)) : 2 ^ k ≤ 2 ^ n :=
  Nat.pow_le_pow_right (by decide) (Nat.le_of_lt_succ ((Nat.pow_lt_pow_iff_right (by decide)).1 below))

/-- Of the numbers that two bytes hold, the stored page sizes are read. -/
theorem exists_readPageSize_iff {stored : Nat} (short : stored < 65536) :
    (∃ pageSize, readPageSize stored = .ok pageSize) ↔ StoredPageSize stored := by
  constructor
  · rintro ⟨pageSize, read⟩
    unfold readPageSize at read
    extract_lets size at read
    split at read
    · rename_i valid
      obtain ⟨power, least, -⟩ := valid
      by_cases one : stored = 1
      · exact .inl one
      · have same : size = stored := if_neg one
        rw [same, Nat.pow_eq] at power
        rw [same] at least
        have half : 2 ^ stored.log2 ≤ 2 ^ 15 := pow_le_of_lt (by omega)
        exact .inr ⟨least, by omega, _, power⟩
    · cases read
  · rintro (rfl | ⟨least, most, k, rfl⟩)
    · exact ⟨65536, rfl⟩
    · have other : (2 : Nat) ^ k ≠ 1 := by omega
      refine ⟨UInt32.ofNat (2 ^ k), ?_⟩
      simp only [readPageSize, other, if_false, Nat.log2_two_pow, Nat.pow_eq, minPageSize, maxPageSize]
      rw [if_pos ⟨trivial, least, by omega⟩]

/-- A page size that was read is stored as it was. -/
theorem storedPageSize_of_read {stored : Nat} {pageSize : UInt32} (short : stored < 65536)
    (read : readPageSize stored = .ok pageSize) : storedPageSize pageSize = stored := by
  unfold readPageSize at read
  extract_lets size at read
  split at read
  · cases read
    have wide : size < UInt32.size := by simp only [maxPageSize, UInt32.size] at *; omega
    rw [storedPageSize, UInt32.toNat_ofNat_of_lt' wide]
    by_cases one : stored = 1
    · have largest : size = maxPageSize := if_pos one
      rw [if_pos largest, one]
    · have same : size = stored := if_neg one
      have smaller : size ≠ maxPageSize := by simp only [maxPageSize]; omega
      rw [if_neg smaller, same]
      exact Nat.mod_eq_of_lt short
  · cases read

/-! ## Whole headers -/

/-- The bytes that start with a header: they begin with the magic, and their page size and text encoding are
among those that a file may have. -/
structure Stored (bytes : Bytes) : Prop where
  enough : 100 ≤ bytes.size
  magic : bytes.extract 0 16 = sqliteMagic.toArray
  pageSize : StoredPageSize (bytes.natAt 16 2)
  textEncoding : bytes.natAt 56 4 ≤ 3

/-- Bytes taken one by one from an offset on are a run. -/
theorem toArray_ofFn {bytes : Bytes} {offset n : Nat} (inside : ∀ i : Fin n, offset + i.val < bytes.size)
    (fits : offset + n ≤ bytes.size) :
    (Vector.ofFn fun i : Fin n => getElem bytes (offset + i.val) (inside i)).toArray =
      bytes.extract offset (offset + n) := by
  apply Array.ext
  · simp only [Vector.size_toArray, Array.size_extract]
    omega
  · intro i below _
    simp

/-- A word that was read is written with the same bytes. -/
theorem word_natAt {bytes : Bytes} {offset : Nat} (inside : offset + 4 ≤ bytes.size) :
    word (UInt32.ofNat (bytes.natAt offset 4)) = bytes.extract offset (offset + 4) := by
  rw [word, UInt32.toNat_ofNat_of_lt' (bytes.natAt_lt offset 4), Bytes.ofNatBE_natAt inside]

/-- The six numbers of one byte that a header holds are a run. -/
theorem toArray_bytes {bytes : Bytes} (enough : 100 ≤ bytes.size) :
    #[bytes[18], bytes[19], bytes[20], bytes[21], bytes[22], bytes[23]] = bytes.extract 18 24 := by
  apply Array.ext
  · simp only [List.size_toArray, List.length_cons, List.length_nil, Array.size_extract]
    omega
  · intro i below _
    have few : i < 6 := below
    match i, few with
    | 0, _ | 1, _ | 2, _ | 3, _ | 4, _ | 5, _ => simp

/-- What a header that was read has from the bytes that it was read from. Its fields are told all in one, by what is
written of them. -/
theorem of_ofBytes {bytes : Bytes} {header : FileHeader} (read : ofBytes bytes = .ok header) :
    Stored bytes ∧ header.magic = sqliteMagic ∧ TextEncoding.ofStored (bytes.natAt 56 4) = .ok header.textEncoding ∧
      header.toBytes = bytes.extract 0 56 ++ Bytes.ofNatBE 4 header.textEncoding.stored ++ bytes.extract 60 100 := by
  unfold ofBytes at read
  split at read
  · cases read
  · rename_i enough
    have enough : 100 ≤ bytes.size := by omega
    dsimp only at read
    split at read
    · cases read
    · rename_i magic
      rw [ne_eq, not_not] at magic
      obtain ⟨pageSize, sized, read⟩ := Outcomes.ok_of_bind read
      obtain ⟨encoding, encoded, read⟩ := Outcomes.ok_of_bind read
      cases read
      have short : bytes.natAt 16 2 < 65536 := bytes.natAt_lt 16 2
      have known : bytes.natAt 56 4 ≤ 3 := TextEncoding.exists_ofStored_iff.1 ⟨_, encoded⟩
      have start := @toArray_ofFn bytes 0 16 (fun i => by omega) (by omega)
      have reserved := @toArray_ofFn bytes 72 20 (fun i => by omega) (by omega)
      simp only [Nat.zero_add] at start
      refine ⟨⟨enough, ?_, (exists_readPageSize_iff short).1 ⟨_, sized⟩, known⟩, magic, encoded, ?_⟩
      · rw [← magic, start]
      · -- Each field is written as the run that it was read from, and the runs join.
        simp (disch := omega) only [toBytes, start, reserved, storedPageSize_of_read short sized, Bytes.ofNatBE_natAt,
          toArray_bytes enough, word_natAt, Nat.reduceAdd, Bytes.extract_append_extract, Array.append_assoc]

/-- Reading accepts the bytes that start with a header, and no others. -/
theorem exists_ofBytes_iff {bytes : Bytes} : (∃ header, ofBytes bytes = .ok header) ↔ Stored bytes := by
  constructor
  · rintro ⟨header, read⟩
    exact (of_ofBytes read).1
  · intro stored
    have enough := stored.enough
    obtain ⟨pageSize, sized⟩ := (exists_readPageSize_iff (bytes.natAt_lt 16 2)).2 stored.pageSize
    obtain ⟨encoding, encoded⟩ := TextEncoding.exists_ofStored_iff.2 stored.textEncoding
    have start := @toArray_ofFn bytes 0 16 (fun i => by omega) (by omega)
    simp only [Nat.zero_add, stored.magic, Vector.toArray_inj] at start
    simp only [ofBytes, show ¬ bytes.size < 100 by omega, dif_neg, not_false_eq_true, start, ne_eq, not_true_eq_false,
      if_false, sized, encoded, bind, Except.bind, pure, Except.pure]
    exact ⟨_, rfl⟩

/-- A header that was read is written as it was stored. Only a text encoding that was never set is written as
the one that it stands for. -/
theorem toBytes_of_ofBytes {bytes : Bytes} {header : FileHeader} (read : ofBytes bytes = .ok header) :
    header.toBytes = if bytes.natAt 56 4 = 0 then Bytes.overwrite (bytes.extract 0 100) 56 #[0, 0, 0, 1]
      else bytes.extract 0 100 := by
  obtain ⟨stored, -, encoded, written⟩ := of_ofBytes read
  have enough := stored.enough
  rw [written, (TextEncoding.ofStored_eq_ok_iff.1 encoded).2]
  by_cases unset : bytes.natAt 56 4 = 0
  · have one : Bytes.ofNatBE 4 1 = #[0, 0, 0, 1] := by decide
    have back : min 100 bytes.size = 100 := Nat.min_eq_left enough
    simp [Bytes.overwrite, unset, one, back]
  · rw [if_neg unset, if_neg unset, Bytes.ofNatBE_natAt (by omega), Bytes.extract_append_extract (by omega),
      Bytes.extract_append_extract (by omega)]

/-- A header reads back from what is written of it just when it has the magic of a database and a page size that a
file may use. -/
theorem ofBytes_toBytes_iff {header : FileHeader} : ofBytes header.toBytes = .ok header ↔
    header.magic = sqliteMagic ∧ ValidPageSize header.pageSize.toNat := by
  constructor
  · intro read
    exact ⟨(of_ofBytes read).2.1, (valid_of_ofBytes read).2⟩
  · rintro ⟨magic, valid⟩
    have read := ofBytes_append magic valid #[]
    rwa [Array.append_empty] at read

end FileHeader

/-- A file opens just when its first hundred bytes are a header whose text is UTF-8. -/
theorem Database.exists_ofFile_iff {file : Bytes} {settings : Settings} :
    (∃ database, Database.ofFile file settings = .ok database) ↔
      (∃ header, FileHeader.ofBytes (file.extract 0 100) = .ok header) ∧ Bytes.natAt (file.extract 0 100) 56 4 ≤ 1 := by
  -- Number zero and number one are those of UTF-8.
  have utf8 {header : FileHeader} (read : FileHeader.ofBytes (file.extract 0 100) = .ok header) :
      header.textEncoding = .utf8 ↔ Bytes.natAt (file.extract 0 100) 56 4 ≤ 1 := by
    obtain ⟨-, -, encoded, -⟩ := FileHeader.of_ofBytes read
    obtain ⟨known, number⟩ := TextEncoding.ofStored_eq_ok_iff.1 encoded
    generalize Bytes.natAt (file.extract 0 100) 56 4 = stored at known number ⊢
    cases encoding : header.textEncoding <;> simp only [encoding, TextEncoding.stored, reduceCtorEq, true_iff,
      false_iff] at number ⊢ <;> split at number <;> omega
  constructor
  · rintro ⟨database, opened⟩
    obtain ⟨read, encoding, -⟩ := ofFile_eq_ok_iff.1 opened
    rw [← FileHeader.ofBytes_extract (FileHeader.of_ofBytes read).1.enough] at read
    exact ⟨⟨_, read⟩, (utf8 read).1 encoding⟩
  · rintro ⟨⟨header, read⟩, low⟩
    have enough : 100 ≤ file.size := by
      have inside := (FileHeader.of_ofBytes read).1.enough
      rw [Array.size_extract] at inside
      omega
    have encoding := (utf8 read).2 low
    rw [FileHeader.ofBytes_extract enough] at read
    exact ⟨⟨header, .new file header.pageSize.toNat settings.pageCache⟩, ofFile_eq_ok_iff.2 ⟨read, encoding, rfl⟩⟩

/-- A header takes a hundred bytes, and a header that a file may have reads back from them. The bytes that can be
read are those that start with a header, and writing gives them back, but for a text encoding that was never set.
A file opens when its start can be read and its text is UTF-8. -/
theorem header_codec (header : FileHeader) (bytes : Bytes) (settings : Settings) :
    header.toBytes.size = 100 ∧
      (FileHeader.ofBytes header.toBytes = .ok header ↔
        header.magic = FileHeader.sqliteMagic ∧ FileHeader.ValidPageSize header.pageSize.toNat) ∧
      ((∃ read, FileHeader.ofBytes bytes = .ok read) ↔ FileHeader.Stored bytes) ∧
      (∀ read, FileHeader.ofBytes bytes = .ok read → read.toBytes =
        if bytes.natAt 56 4 = 0 then Bytes.overwrite (bytes.extract 0 100) 56 #[0, 0, 0, 1]
        else bytes.extract 0 100) ∧
      ((∃ database, Database.ofFile bytes settings = .ok database) ↔
        (∃ read, FileHeader.ofBytes (bytes.extract 0 100) = .ok read) ∧
          Bytes.natAt (bytes.extract 0 100) 56 4 ≤ 1) := by
  refine ⟨FileHeader.size_toBytes header, FileHeader.ofBytes_toBytes_iff, FileHeader.exists_ofBytes_iff, ?_,
    Database.exists_ofFile_iff⟩
  intro read given
  exact FileHeader.toBytes_of_ofBytes given

end SqliteReader
