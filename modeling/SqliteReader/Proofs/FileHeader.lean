import SqliteReader.Database
import SqliteReader.Proofs.Bytes
import SqliteReader.Proofs.Pager
import SqliteReader.Proofs.Partial

/-!
# Headers and opening a file

A header that is written to the start of a file reads back as it is (`FileHeader.ofBytes_append`), and a file
is opened when its first hundred bytes are a header with UTF-8 text (`Database.ofFile_eq_ok_iff`).
-/
namespace SqliteReader

theorem TextEncoding.ofStored_stored (encoding : TextEncoding) : ofStored encoding.stored = .ok encoding := by
  cases encoding <;> rfl

namespace FileHeader

@[simp] theorem size_word (n : UInt32) : (word n).size = 4 := Bytes.size_ofNatBE _ _

@[simp] theorem size_toBytes (header : FileHeader) : header.toBytes.size = 100 := by
  simp [toBytes]

/-- A word reads back from where it stands. -/
theorem wordAt_of_holds {bytes : Bytes} {offset : Nat} {n : UInt32} (held : bytes.Holds offset (word n)) :
    UInt32.ofNat (bytes.natAt offset 4) = n := by
  have read := held.natAt
  rw [size_word, word, Bytes.natBE_ofNatBE_of_lt n.toNat_lt] at read
  rw [read, UInt32.ofNat_toNat]

/-- A page size that a file may use: a power of two from 512 to 65536. -/
def ValidPageSize (pageSize : Nat) : Prop := 512 ≤ pageSize ∧ pageSize ≤ 65536 ∧ ∃ k, pageSize = 2 ^ k

theorem storedPageSize_lt (pageSize : UInt32) : storedPageSize pageSize < 256 ^ 2 := by
  unfold storedPageSize
  split
  · decide
  · exact Nat.mod_lt _ (by decide)

/-- The two bytes of a page size give it back, also when it is 65536. -/
theorem readPageSize_stored {pageSize : UInt32} (valid : ValidPageSize pageSize.toNat) :
    readPageSize (storedPageSize pageSize) = .ok pageSize := by
  obtain ⟨least, most, k, power⟩ := valid
  have meant : (if storedPageSize pageSize = 1 then maxPageSize else storedPageSize pageSize) = pageSize.toNat := by
    unfold storedPageSize
    by_cases largest : pageSize.toNat = maxPageSize
    · simp [largest]
    · have small : pageSize.toNat % UInt16.size = pageSize.toNat := by
        simp only [maxPageSize, UInt16.size] at largest ⊢
        omega
      rw [if_neg largest, small, if_neg (by omega)]
  have exact_power : pageSize.toNat = Nat.pow 2 pageSize.toNat.log2 := by
    rw [power, Nat.log2_two_pow, Nat.pow_eq]
  simp only [readPageSize, meant]
  rw [if_pos ⟨exact_power, least, most⟩, UInt32.ofNat_toNat]

/-- Bytes read one by one from where a vector stands are those of the vector. -/
theorem ofFn_of_holds {n : Nat} {bytes : Bytes} {offset : Nat} {run : Vector UInt8 n}
    (held : bytes.Holds offset run.toArray) (inside : ∀ i : Fin n, offset + i < bytes.size) :
    Vector.ofFn (fun i : Fin n => getElem bytes (offset + i.val) (inside i)) = run := by
  refine Vector.ext fun i below => ?_
  have there := held.getElem? (i := i) (by simpa using below)
  rw [Array.getElem?_eq_getElem (inside ⟨i, below⟩), Array.getElem?_eq_getElem (by simpa using below)] at there
  simpa using there

/-- What is written at the start of a file reads back, as long as a file may start so. -/
theorem ofBytes_append {header : FileHeader} (magic : header.magic = sqliteMagic)
    (valid : ValidPageSize header.pageSize.toNat) (rest : Bytes) :
    ofBytes (header.toBytes ++ rest) = .ok header := by
  have held := (Bytes.holds_self header.toBytes).append_right rest
  have enough : ¬ (header.toBytes ++ rest).size < 100 := by
    rw [Array.size_append, size_toBytes]
    omega
  generalize header.toBytes ++ rest = bytes at *
  simp only [toBytes, Bytes.holds_append, Array.size_append, size_word, Bytes.size_ofNatBE, Vector.size_toArray,
    List.size_toArray, List.length_cons, List.length_nil, Nat.zero_add, Nat.reduceAdd] at held
  obtain ⟨⟨⟨⟨⟨⟨⟨⟨⟨⟨⟨⟨⟨⟨⟨⟨⟨start, size⟩, flags⟩, changes⟩, pages⟩, trunk⟩, free⟩, cookie⟩, format⟩, cache⟩, root⟩,
    encoding⟩, user⟩, vacuum⟩, application⟩, reserved⟩, version⟩, sqlite⟩ := held
  have sizeRead := size.natAt
  rw [Bytes.size_ofNatBE, Bytes.natBE_ofNatBE_of_lt (storedPageSize_lt _)] at sizeRead
  have encodingRead := encoding.natAt
  rw [Bytes.size_ofNatBE, Bytes.natBE_ofNatBE_of_lt (by cases header.textEncoding <;> decide)] at encodingRead
  have start := ofFn_of_holds start fun i => by omega
  have reserved := ofFn_of_holds reserved fun i => by omega
  have flag (i : Nat) (below : i < 6) {byte : UInt8} (there : #[header.writeVersion, header.readVersion,
      header.reservedSpace, header.maxPayloadFraction, header.minPayloadFraction, header.leafPayloadFraction][i]? =
        some byte) : bytes[18 + i] = byte :=
    (Array.getElem?_eq_some_iff.1 ((flags.getElem? below).trans there)).2
  simp only [Nat.zero_add] at start
  simp only [ofBytes, enough, dif_neg, not_false_eq_true, start, magic]
  simp only [ne_eq, not_true_eq_false, if_false, sizeRead, readPageSize_stored valid, encodingRead,
    TextEncoding.ofStored_stored, bind, Except.bind, pure, Except.pure]
  rw [flag 0 (by decide) rfl, flag 1 (by decide) rfl, flag 2 (by decide) rfl, flag 3 (by decide) rfl,
    flag 4 (by decide) rfl, flag 5 (by decide) rfl, wordAt_of_holds changes, wordAt_of_holds pages,
    wordAt_of_holds trunk, wordAt_of_holds free, wordAt_of_holds cookie, wordAt_of_holds format,
    wordAt_of_holds cache, wordAt_of_holds root, wordAt_of_holds user, wordAt_of_holds vacuum,
    wordAt_of_holds application, reserved, wordAt_of_holds version, wordAt_of_holds sqlite, ← magic]
  rfl

/-- A header is read from the first hundred bytes alone. -/
theorem ofBytes_extract {bytes : Bytes} (enough : 100 ≤ bytes.size) :
    ofBytes (bytes.extract 0 100) = ofBytes bytes := by
  have short : ¬ (bytes.extract 0 100).size < 100 := by
    rw [Array.size_extract]
    omega
  simp (disch := decide) only [ofBytes, short, show ¬ bytes.size < 100 by omega, dif_neg,
    Array.getElem_extract, Nat.zero_add, Bytes.natAt_extract]

/-- A page size that was read is one that a file may use. -/
theorem validPageSize_of_readPageSize {stored : Nat} {pageSize : UInt32} (read : readPageSize stored = .ok pageSize) :
    ValidPageSize pageSize.toNat := by
  unfold readPageSize at read
  extract_lets size at read
  split at read
  · rename_i valid
    obtain ⟨power, least, most⟩ := valid
    cases read
    simp only [minPageSize, maxPageSize] at least most
    rw [UInt32.toNat_ofNat_of_lt' (show size < 2 ^ 32 by omega)]
    exact ⟨least, most, _, power⟩
  · cases read

/-- A header that was read has a whole hundred bytes, and its page size is one that a file may use. -/
theorem valid_of_ofBytes {bytes : Bytes} {header : FileHeader} (read : ofBytes bytes = .ok header) :
    100 ≤ bytes.size ∧ ValidPageSize header.pageSize.toNat := by
  unfold ofBytes at read
  split at read
  · cases read
  · rename_i enough
    dsimp only at read
    split at read
    · cases read
    · obtain ⟨pageSize, sized, read⟩ := Outcomes.ok_of_bind read
      obtain ⟨encoding, -, read⟩ := Outcomes.ok_of_bind read
      cases read
      exact ⟨by omega, validPageSize_of_readPageSize sized⟩

end FileHeader

/-- A file opens as a database when its header can be read and names UTF-8, with a pager that has read
nothing yet. -/
theorem Database.ofFile_eq_ok_iff {file : Bytes} {settings : Settings} {database : Database} :
    Database.ofFile file settings = .ok database ↔
      FileHeader.ofBytes file = .ok database.header ∧ database.header.textEncoding = .utf8 ∧
        database.pager = .new file database.header.pageSize.toNat settings.pageCache := by
  rcases database with ⟨header, pager⟩
  unfold ofFile
  cases read : FileHeader.ofBytes file with
  | error error => simp [bind, Except.bind]
  | ok found =>
    by_cases utf8 : found.textEncoding = .utf8
    · simp only [bind, Except.bind, utf8, ne_eq, not_true_eq_false, if_false, pure, Except.pure, Except.ok.injEq,
        Database.mk.injEq]
      constructor
      · rintro ⟨rfl, rfl⟩
        exact ⟨rfl, utf8, rfl⟩
      · rintro ⟨rfl, -, rfl⟩
        exact ⟨rfl, rfl⟩
    · simp only [bind, Except.bind, utf8, ne_eq, not_false_eq_true, if_true, throw, throwThe, MonadExceptOf.throw,
        reduceCtorEq, Except.ok.injEq, false_iff, not_and]
      rintro rfl same
      exact absurd same utf8

/-- A file that starts with a header opens with that header. -/
theorem Database.ofFile_append {header : FileHeader} (magic : header.magic = FileHeader.sqliteMagic)
    (valid : FileHeader.ValidPageSize header.pageSize.toNat) (utf8 : header.textEncoding = .utf8) (rest : Bytes)
    (settings : Settings) : Database.ofFile (header.toBytes ++ rest) settings =
      .ok ⟨header, .new (header.toBytes ++ rest) header.pageSize.toNat settings.pageCache⟩ :=
  ofFile_eq_ok_iff.2 ⟨FileHeader.ofBytes_append magic valid rest, utf8, rfl⟩

/-- The pager of a database that was just opened reads its file. -/
theorem Database.over_of_ofFile {file : Bytes} {settings : Settings} {database : Database}
    (opened : Database.ofFile file settings = .ok database) :
    database.pager.Over file database.header.pageSize.toNat := by
  obtain ⟨-, -, new⟩ := ofFile_eq_ok_iff.1 opened
  rw [new]
  exact Pager.over_new _ _ _

/-- A file that starts with the same hundred bytes opens with the same header. -/
theorem Database.ofFile_of_start {file file' : Bytes} {settings : Settings} {database : Database}
    (opened : Database.ofFile file settings = .ok database) (start : file'.extract 0 100 = file.extract 0 100) :
    Database.ofFile file' settings =
      .ok ⟨database.header, .new file' database.header.pageSize.toNat settings.pageCache⟩ := by
  obtain ⟨header, utf8, -⟩ := ofFile_eq_ok_iff.1 opened
  have enough := (FileHeader.valid_of_ofBytes header).1
  have sizes := congrArg Array.size start
  rw [Array.size_extract, Array.size_extract] at sizes
  refine ofFile_eq_ok_iff.2 ⟨?_, utf8, rfl⟩
  rw [← FileHeader.ofBytes_extract (by omega), start, FileHeader.ofBytes_extract enough, header]

/-- Whether pages are kept makes no difference to opening a file. -/
theorem Database.ofFile_pageCache {file : Bytes} {settings : Settings} {database : Database}
    (opened : Database.ofFile file settings = .ok database) (keepPages : Bool) :
    ∃ other, Database.ofFile file { settings with pageCache := keepPages } = .ok other ∧
      other.header = database.header := by
  obtain ⟨header, utf8, -⟩ := ofFile_eq_ok_iff.1 opened
  exact ⟨⟨database.header, .new file database.header.pageSize.toNat keepPages⟩,
    ofFile_eq_ok_iff.2 ⟨header, utf8, rfl⟩, rfl⟩

/-! ## Small files -/

/-- The header of a file with the smallest pages. -/
def smallHeader : FileHeader := { FileHeader.initial with pageSize := 512 }

/-- The smallest page that begins with `content`. A list is joined here, which is evaluated no further than it is
looked at. -/
def smallPage (content : Bytes) : Bytes := (content.toList ++ List.replicate (512 - content.size) 0).toArray

/-- A file of the smallest pages. The first one begins with a header and `first`, the others as they are given. -/
def smallFile (first : Bytes) (others : List Bytes) : Bytes :=
  Bytes.concat (smallPage (smallHeader.toBytes ++ first) :: others.map smallPage)

theorem valid_smallHeader : FileHeader.ValidPageSize smallHeader.pageSize.toNat := ⟨by decide, by decide, 9, by decide⟩

theorem size_smallPage {content : Bytes} (fits : content.size ≤ 512) : (smallPage content).size = 512 := by
  rw [smallPage, List.size_toArray, List.length_append, List.length_replicate, Array.length_toList,
    Nat.add_sub_cancel' fits]

section
variable {first : Bytes} {others : List Bytes}

theorem Database.ofFile_smallFile (settings : Settings) : Database.ofFile (smallFile first others) settings =
    .ok ⟨smallHeader, .new (smallFile first others) 512 settings.pageCache⟩ := by
  have start : ∃ rest, smallFile first others = smallHeader.toBytes ++ rest := by
    rw [smallFile, Bytes.concat_cons, smallPage, ← List.append_toArray, Array.toArray_toList, Array.append_assoc,
      Array.append_assoc]
    exact ⟨_, rfl⟩
  obtain ⟨rest, start⟩ := start
  rw [start]
  exact ofFile_append rfl valid_smallHeader rfl rest settings

theorem Pager.over_smallFile (keepPages : Bool) :
    (Pager.new (smallFile first others) 512 keepPages).Over (smallFile first others) 512 :=
  Database.over_of_ofFile (Database.ofFile_smallFile { Settings.default with pageCache := keepPages })

variable (fits : ∀ content ∈ (smallHeader.toBytes ++ first) :: others, content.size ≤ 512)
include fits

theorem size_of_mem_smallPages : ∀ page ∈ ((smallHeader.toBytes ++ first) :: others).map smallPage,
    page.size = 512 := by
  intro page inside
  obtain ⟨content, among, rfl⟩ := List.mem_map.1 inside
  exact size_smallPage (fits content among)

theorem size_smallFile : (smallFile first others).size = (others.length + 1) * 512 := by
  rw [smallFile, ← List.map_cons, Bytes.size_concat_of_size (size_of_mem_smallPages fits), List.length_map,
    List.length_cons]

/-- Each page is read under its number, when all that they begin with fits. -/
theorem pageOf_smallFile {page : PageNumber} (numbered : page ≠ 0) {content : Bytes}
    (there : ((smallHeader.toBytes ++ first) :: others)[page.toNat - 1]? = some content) :
    pageOf (smallFile first others) 512 page = .ok (smallPage content) := by
  rw [smallFile, ← List.map_cons]
  refine pageOf_concat (size_of_mem_smallPages fits) numbered ?_
  rw [List.getElem?_map, there, Option.map_some]

end

end SqliteReader
