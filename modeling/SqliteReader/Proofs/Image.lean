import Mathlib.Data.List.Nodup
import SqliteReader.Image
import SqliteReader.Proofs.Catalog
import SqliteReader.Proofs.FileHeader
import SqliteReader.Proofs.PageLayout

/-!
# Images read back

The file that an image describes opens with the header of the image, its catalog lists the tables of the image
and then the further entries, and a scan from the root page of each table gives its rows
(`image_reads_back`).
-/
namespace SqliteReader

theorem flatten_chunks {α : Type} (count : Nat) (items : List α) : (chunks count items).flatten = items := by
  induction items using chunks.induct count with
  | case1 => rw [chunks, List.flatten_nil]
  | case2 first rest ih =>
    rw [chunks, List.flatten_cons, ih, List.cons_append, List.take_append_drop]

/-- There are as many runs as it takes to hold all items. -/
theorem length_chunks {α : Type} {count : Nat} (positive : 0 < count) (items : List α) :
    (chunks count items).length = (items.length + count - 1) / count := by
  induction items using chunks.induct count with
  | case1 =>
    rw [chunks, List.length_nil, List.length_nil, Nat.div_eq_of_lt (by omega)]
  | case2 first rest ih =>
    rw [chunks, List.length_cons, ih, List.length_drop, List.length_cons]
    by_cases last : rest.length < count
    · rw [Nat.div_eq_of_lt (by omega), show rest.length + 1 + count - 1 = rest.length + count by omega,
        Nat.add_div_right _ positive, Nat.div_eq_of_lt last]
    · rw [show rest.length - (count - 1) + count - 1 = rest.length by omega,
        show rest.length + 1 + count - 1 = rest.length + count by omega, Nat.add_div_right _ positive]

namespace Image
variable (image : Image)

/-- The leaves of a split table with their page numbers. -/
def numbered (table : ImageTable) (root : PageNumber) : List (PageNumber × List (RowId × Bytes)) :=
  (image.leaves table).zipIdx.map fun (rows, index) => (UInt32.ofNat (root.toNat + 1 + index), rows)

/-- The pages of a table are one leaf, or an interior page and the leaves below it. -/
theorem of_tablePages {pageSize : Nat} {table : ImageTable} {root : PageNumber} {pages : List Bytes}
    (laid : image.tablePages pageSize table root = .ok pages) :
    (table.rows.length ≤ image.leafRows table ∧ ∃ data, leafPage root pageSize table.rows = .ok data ∧ pages = [data]) ∨
      (image.leafRows table < table.rows.length ∧ ∃ rootPage leafPages, pages = rootPage :: leafPages ∧
        interiorPage root pageSize ((image.numbered table root).map fun (page, rows) =>
          (page, (rows.getLast?.map Prod.fst).getD 0)) = .ok rootPage ∧
        (image.numbered table root).map (fun (page, rows) => leafPage page pageSize rows) = leafPages.map .ok) := by
  unfold tablePages at laid
  by_cases single : table.rows.length ≤ image.leafRows table
  · rw [if_pos single] at laid
    obtain ⟨data, page, laid⟩ := Outcomes.ok_of_bind laid
    cases laid
    exact .inl ⟨single, data, page, rfl⟩
  · rw [if_neg single] at laid
    obtain ⟨rootPage, interior, laid⟩ := Outcomes.ok_of_bind laid
    obtain ⟨leafPages, leaves, laid⟩ := Outcomes.ok_of_bind laid
    cases laid
    rw [Outcomes.mapM_eq_ok_iff] at leaves
    exact .inr ⟨by omega, rootPage, leafPages, rfl, interior, leaves⟩

theorem length_numbered (table : ImageTable) (root : PageNumber) :
    (image.numbered table root).length = (image.leaves table).length := by
  rw [numbered, List.length_map, List.length_zipIdx]

theorem getElem?_numbered (table : ImageTable) (root : PageNumber) (i : Nat) :
    (image.numbered table root)[i]? =
      (image.leaves table)[i]?.map fun rows => (UInt32.ofNat (root.toNat + 1 + i), rows) := by
  simp only [numbered, List.getElem?_map, List.getElem?_zipIdx, Nat.zero_add, Option.map_map]
  rfl

/-- The leaves are numbered one after the other behind their root. -/
theorem numbers_numbered (table : ImageTable) (root : PageNumber) :
    (image.numbered table root).map Prod.fst =
      (List.range (image.leaves table).length).map fun i => UInt32.ofNat (root.toNat + (i + 1)) := by
  apply List.ext_getElem?
  intro i
  rw [List.getElem?_map, getElem?_numbered, Option.map_map, List.getElem?_map]
  by_cases below : i < (image.leaves table).length
  · rw [List.getElem?_eq_getElem below, List.getElem?_range below]
    simp only [Option.map_some, Nat.add_assoc, Nat.add_comm 1 i]
    rfl
  · rw [List.getElem?_eq_none (by omega), List.getElem?_eq_none (by simp; omega)]
    rfl

/-- The leaves hold the rows of their table, in order. -/
theorem rows_numbered (table : ImageTable) (root : PageNumber) :
    (image.numbered table root).flatMap Prod.snd = table.rows := by
  have runs : (image.numbered table root).map Prod.snd = image.leaves table := by
    apply List.ext_getElem?
    intro i
    rw [List.getElem?_map, getElem?_numbered, Option.map_map]
    cases (image.leaves table)[i]? <;> rfl
  rw [List.flatMap_def, runs, leaves, flatten_chunks]

theorem leafRows_pos (table : ImageTable) : 0 < image.leafRows table := by
  rw [leafRows]
  omega

/-- The pages set apart for a table are one leaf or the leaves that its rows are cut into and their root. -/
theorem pagesOf_eq (table : ImageTable) : image.pagesOf table =
    if table.rows.length ≤ image.leafRows table then 1 else (image.leaves table).length + 1 := by
  have positive := image.leafRows_pos table
  have single : (table.rows.length + image.leafRows table - 1) / image.leafRows table < 2 ↔
      table.rows.length ≤ image.leafRows table := by
    rw [Nat.div_lt_iff_lt_mul positive]
    omega
  simp only [pagesOf, leaves, length_chunks positive]
  split <;> split <;> omega

/-- A table has as many pages as are set apart for it. -/
theorem length_tablePages {pageSize : Nat} {table : ImageTable} {root : PageNumber} {pages : List Bytes}
    (laid : image.tablePages pageSize table root = .ok pages) : pages.length = image.pagesOf table := by
  rcases image.of_tablePages laid with ⟨single, data, -, rfl⟩ | ⟨split, rootPage, leafPages, rfl, -, leaves⟩
  · rw [pagesOf_eq, if_pos single, List.length_singleton]
  · have same := congrArg List.length leaves
    rw [List.length_map, List.length_map, length_numbered] at same
    rw [pagesOf_eq, if_neg (by omega), List.length_cons, ← same]

/-- The pages of a table can be loaded from its root on, and their numbers do not wrap around. -/
structure Loaded (load : PageNumber → Except Error Bytes) (root : PageNumber) (pages : List Bytes) : Prop where
  positive : 0 < root.toNat
  room : root.toNat + pages.length ≤ 2 ^ 32
  loads : ∀ i data, pages[i]? = some data → load (UInt32.ofNat (root.toNat + i)) = .ok data

theorem pagesOf_pos (table : ImageTable) : 0 < image.pagesOf table := by
  rw [pagesOf_eq]
  split <;> omega

section
variable {image} {pageSize : Nat} {load : PageNumber → Except Error Bytes} {table : ImageTable} {root : PageNumber}
  {pages : List Bytes}

theorem Loaded.toNat_number (loaded : Loaded load root pages) {i : Nat} (below : i < pages.length) :
    (UInt32.ofNat (root.toNat + i)).toNat = root.toNat + i := by
  have room := loaded.room
  exact UInt32.toNat_ofNat_of_lt' (show _ < 2 ^ 32 by omega)

theorem Loaded.loads_root (loaded : Loaded load root pages) {data : Bytes} (first : pages[0]? = some data) :
    load root = .ok data := by
  have there := loaded.loads 0 data first
  rwa [Nat.add_zero, UInt32.ofNat_toNat] at there

/-- The leaves of a split table are numbered above its root. -/
theorem Loaded.lt_of_numbered (loaded : Loaded load root pages) (count : (image.leaves table).length < pages.length)
    {page : PageNumber} (inside : page ∈ (image.numbered table root).map Prod.fst) : root.toNat < page.toNat := by
  rw [numbers_numbered] at inside
  obtain ⟨i, below, rfl⟩ := List.mem_map.1 inside
  have := List.mem_range.1 below
  rw [loaded.toNat_number (by omega)]
  omega

theorem Loaded.nodup_numbered (loaded : Loaded load root pages) (count : (image.leaves table).length < pages.length) :
    ((image.numbered table root).map Prod.fst).Nodup := by
  rw [numbers_numbered]
  refine List.Nodup.map_on ?_ List.nodup_range
  intro i below j below' same
  have numbers := congrArg UInt32.toNat same
  rw [List.mem_range] at below below'
  rw [loaded.toNat_number (by omega), loaded.toNat_number (by omega)] at numbers
  omega

/-- Each leaf of a split table is met with its rows. -/
theorem visit_of_numbered (enough : 512 ≤ pageSize) (most : pageSize ≤ 65536) {rootPage : Bytes}
    {leafPages : List Bytes} (loaded : Loaded load root (rootPage :: leafPages))
    (leaves : (image.numbered table root).map (fun (page, rows) => leafPage page pageSize rows) = leafPages.map .ok)
    {child : PageNumber × List (RowId × Bytes)} (inside : child ∈ image.numbered table root) :
    (Visit.of load child.1).below = [] ∧ (Visit.of load child.1).outcomes = (child.2.map storedCell).map .ok ∧
      (Visit.of load child.1).skipped = [] := by
  obtain ⟨i, there⟩ := List.getElem?_of_mem inside
  have page := congrArg (fun outcomes => outcomes[i]?) leaves
  simp only [List.getElem?_map, there, Option.map_some] at page
  obtain ⟨data, isData, page⟩ : ∃ data, leafPages[i]? = some data ∧ leafPage child.1 pageSize child.2 = .ok data := by
    cases isData : leafPages[i]? with
    | none => simp [isData] at page
    | some data => exact ⟨data, rfl, by simpa [isData] using page⟩
  have number : child.1 = UInt32.ofNat (root.toNat + (i + 1)) := by
    rw [getElem?_numbered] at there
    obtain ⟨rows, -, same⟩ := Option.map_eq_some_iff.1 there
    rw [← same, Nat.add_assoc, Nat.add_comm 1 i]
  have loads := loaded.loads (i + 1) data (by simpa using isData)
  rw [← number] at loads
  obtain ⟨body, rfl⟩ := zeros_of_leafPage page enough
  exact visit_leafPage page enough most (Bytes.size_zeros _) loads

/-- A walk over a split table meets its root, where there is nothing to give, and then its leaves. -/
theorem visits_of_split (enough : 512 ≤ pageSize) (most : pageSize ≤ 65536) {rootPage : Bytes}
    {leafPages : List Bytes} (loaded : Loaded load root (rootPage :: leafPages))
    (interior : interiorPage root pageSize ((image.numbered table root).map fun (page, rows) =>
      (page, (rows.getLast?.map Prod.fst).getD 0)) = .ok rootPage)
    (leaves : (image.numbered table root).map (fun (page, rows) => leafPage page pageSize rows) = leafPages.map .ok) :
    visits load root ∅ [root] =
        Visit.of load root :: (image.numbered table root).map (fun child => Visit.of load child.1) ∧
      (Visit.of load root).outcomes = [] ∧ (Visit.of load root).skipped = [] := by
  have count := congrArg List.length leaves
  rw [List.length_map, List.length_map, length_numbered] at count
  have few : (image.leaves table).length < (rootPage :: leafPages).length := by rw [List.length_cons]; omega
  have apart (page : PageNumber) (inside : page ∈ (image.numbered table root).map Prod.fst) : page ≠ root ∧ page ≠ 0 := by
    have later := loaded.lt_of_numbered few inside
    refine ⟨fun same => ?_, fun zero => ?_⟩
    · rw [same] at later
      omega
    · rw [zero] at later
      exact absurd later (Nat.not_lt_zero _)
  obtain ⟨body, rfl⟩ := zeros_of_interiorPage interior enough
  obtain ⟨below, outcomes, skipped⟩ := visit_interiorPage interior enough most (by
    intro child inside
    obtain ⟨entry, among, rfl⟩ := List.mem_map.1 inside
    exact (apart _ (List.mem_map_of_mem among)).2) (Bytes.size_zeros _) (loaded.loads_root rfl)
  rw [List.map_map] at below
  have numberedBelow : (Visit.of load root).below = (image.numbered table root).map Prod.fst := below
  have bottom := visits_of_bottom load root ((∅ : Seen).insert root) (loaded.nodup_numbered few) (by
    intro page inside
    simp [Std.HashSet.contains_insert, (apart page inside).1.symm]) (by
    intro page inside
    obtain ⟨child, among, rfl⟩ := List.mem_map.1 inside
    exact (visit_of_numbered enough most loaded leaves among).1)
  refine ⟨?_, outcomes, skipped⟩
  rw [visits_fresh load root (by simp), numberedBelow, bottom, visits_nil, List.append_nil, List.map_map]
  rfl

/-- A walk over the pages of a table meets its rows and nothing else. -/
theorem visits_of_loaded (enough : 512 ≤ pageSize) (most : pageSize ≤ 65536)
    (laid : image.tablePages pageSize table root = .ok pages) (loaded : Loaded load root pages) :
    (visits load root ∅ [root]).flatMap Visit.outcomes = (table.rows.map storedCell).map .ok ∧
      (visits load root ∅ [root]).flatMap Visit.skipped = [] := by
  rcases image.of_tablePages laid with ⟨single, data, page, rfl⟩ | ⟨split, rootPage, leafPages, rfl, interior, leaves⟩
  · obtain ⟨body, rfl⟩ := zeros_of_leafPage page enough
    obtain ⟨below, outcomes, skipped⟩ :=
      visit_leafPage page enough most (Bytes.size_zeros _) (loaded.loads_root rfl)
    rw [visits_fresh load root (by simp), below]
    simp [outcomes, skipped]
  · obtain ⟨met, outcomes, skipped⟩ := visits_of_split enough most loaded interior leaves
    have leaf {child : PageNumber × List (RowId × Bytes)} (inside : child ∈ image.numbered table root) :=
      visit_of_numbered enough most loaded leaves inside
    rw [met, List.flatMap_cons, List.flatMap_cons, outcomes, skipped, List.nil_append, List.nil_append,
      List.flatMap_map, List.flatMap_map, ← rows_numbered image table root, List.map_flatMap, List.map_flatMap]
    exact ⟨List.flatMap_congr fun child inside => (leaf inside).2.1,
      List.flatMap_eq_nil_iff.2 fun child inside => (leaf inside).2.2⟩

end

/-! ## The file -/

section
variable {image} {pageSize next : Nat} {tables : List ImageTable} {groups : List (List Bytes)}

/-- Of the tables laid out one behind the other, the first one is laid out at `next` and the others behind it. -/
theorem of_laid_cons {first : ImageTable}
    (laid : ((first :: tables).zip (image.rootsFrom next (first :: tables))).map
      (fun (table, root) => image.tablePages pageSize table root) = groups.map .ok) :
    ∃ pages behind, groups = pages :: behind ∧ image.tablePages pageSize first (UInt32.ofNat next) = .ok pages ∧
      (tables.zip (image.rootsFrom (next + image.pagesOf first) tables)).map
        (fun (table, root) => image.tablePages pageSize table root) = behind.map .ok := by
  simp only [rootsFrom, List.zip_cons_cons, List.map_cons] at laid
  cases groups with
  | nil => simp at laid
  | cons pages behind =>
    simp only [List.map_cons, List.cons.injEq] at laid
    exact ⟨pages, behind, rfl, laid.1, laid.2⟩

/-- The pages of all tables together. -/
theorem length_flatten (laid : (tables.zip (image.rootsFrom next tables)).map
      (fun (table, root) => image.tablePages pageSize table root) = groups.map .ok) :
    groups.flatten.length = (tables.map image.pagesOf).sum := by
  induction tables generalizing next groups with
  | nil =>
    rw [List.zip_nil_left, List.map_nil] at laid
    rw [List.map_eq_nil_iff.1 laid.symm]
    rfl
  | cons first tables ih =>
    obtain ⟨pages, behind, rfl, firstLaid, laid⟩ := of_laid_cons laid
    rw [List.flatten_cons, List.length_append, image.length_tablePages firstLaid, ih laid, List.map_cons,
      List.sum_cons]

/-- The pages of each table follow those of the tables before it, at its root page. -/
theorem of_placed (laid : (tables.zip (image.rootsFrom next tables)).map
      (fun (table, root) => image.tablePages pageSize table root) = groups.map .ok)
    {table : ImageTable} {root : PageNumber} (inside : (table, root) ∈ tables.zip (image.rootsFrom next tables)) :
    ∃ before pages after, groups.flatten = before ++ pages ++ after ∧ root = UInt32.ofNat (next + before.length) ∧
      image.tablePages pageSize table root = .ok pages := by
  induction tables generalizing next groups with
  | nil => simp at inside
  | cons first tables ih =>
    obtain ⟨firstPages, behind, rfl, firstLaid, laid⟩ := of_laid_cons laid
    simp only [rootsFrom, List.zip_cons_cons] at inside
    rcases List.mem_cons.1 inside with same | later
    · cases same
      exact ⟨[], firstPages, behind.flatten, by simp, by simp, firstLaid⟩
    · obtain ⟨before, pages, after, split, number, tablePages⟩ := ih laid later
      refine ⟨firstPages ++ before, pages, after, ?_, ?_, tablePages⟩
      · rw [List.flatten_cons, split]
        simp only [List.append_assoc]
      · rw [number, List.length_append, image.length_tablePages firstLaid, Nat.add_assoc]

end

theorem size_of_tablePages {pageSize : Nat} (enough : 512 ≤ pageSize) {table : ImageTable} {root : PageNumber}
    {pages : List Bytes} (laid : image.tablePages pageSize table root = .ok pages) {data : Bytes}
    (inside : data ∈ pages) : data.size = pageSize := by
  rcases image.of_tablePages laid with ⟨single, page, leaf, rfl⟩ | ⟨split, rootPage, leafPages, rfl, interior, leaves⟩
  · rw [List.mem_singleton.1 inside]
    exact size_leafPage leaf enough
  · rcases List.mem_cons.1 inside with rfl | among
    · exact size_interiorPage interior enough
    · have result : (.ok data : Except Error Bytes) ∈ leafPages.map .ok := List.mem_map_of_mem among
      rw [← leaves] at result
      obtain ⟨child, -, leaf⟩ := List.mem_map.1 result
      exact size_leafPage leaf enough

end Image

theorem overwrite_front (front body rest patch : Bytes) (same : patch.size = front.size) :
    (front ++ body ++ rest).overwrite 0 patch = patch ++ body ++ rest := by
  have behind : (front ++ body ++ rest).extract (0 + patch.size) (front ++ body ++ rest).size = body ++ rest := by
    rw [Nat.zero_add, same, Array.append_assoc, Array.size_append, Array.extract_append_right, Array.extract_size]
  rw [Bytes.overwrite, behind, Array.extract_zero, Array.empty_append, Array.append_assoc]

namespace Image
variable (image : Image)

theorem getElem?_catalogTable (i : Nat) : image.catalogTable.rows[i]? =
    image.catalogEntries[i]?.map fun entry => (Int64.ofNat (i + 1), Record.encode entry.toValues) := by
  simp only [catalogTable, ImageTable.ofRows, ImageTable.ofValues, List.getElem?_map, List.getElem?_zipIdx,
    Nat.zero_add, Option.map_map]
  rfl

/-- Every entry of the catalog has a kind that a word names, when the further entries have. -/
theorem known_catalogEntries (known : ∀ entry ∈ image.entries, ∃ word, entry.kind = .ofWord word) {entry : Entry}
    (inside : entry ∈ image.catalogEntries) : EntryKind.ofWord entry.kind.word = entry.kind := by
  rcases List.mem_append.1 inside with placed | further
  · obtain ⟨table, -, rfl⟩ := List.mem_map.1 placed
    rfl
  · obtain ⟨word, kind⟩ := known entry further
    rw [kind, EntryKind.word_ofWord]

/-- The rows of the catalog page are the entries of the catalog. -/
theorem entryOf_catalogTable {pageSize : Nat} {data : Bytes}
    (laid : leafPage catalogRoot pageSize image.catalogTable.rows = .ok data) (enough : 512 ≤ pageSize)
    (most : pageSize ≤ 65536) (known : ∀ entry ∈ image.entries, ∃ word, entry.kind = .ofWord word) :
    (image.catalogTable.rows.map storedCell).map Catalog.entryOf = image.catalogEntries.map .ok := by
  apply List.ext_getElem?
  intro i
  have row := image.getElem?_catalogTable i
  simp only [List.getElem?_map, row, Option.map_map]
  cases there : image.catalogEntries[i]? with
  | none => rfl
  | some entry =>
    rw [there, Option.map_some] at row
    have small := size_le_of_leafPage laid enough (List.mem_of_getElem? row)
    have entryKnown := image.known_catalogEntries known (List.mem_of_getElem? there)
    exact congrArg some (Catalog.entryOf_encode _ _ entryKnown (Nat.le_trans small most))

theorem tables_zip_rootPages : image.tables.zip image.rootPages =
    image.placed.map fun (table, root) => (table, table.name, root) := by
  have roots (next : Nat) (tables : List ImageTable) :
      tables.zip ((tables.zip (image.rootsFrom next tables)).map fun (table, root) => (table.name, root)) =
        (tables.zip (image.rootsFrom next tables)).map fun (table, root) => (table, table.name, root) := by
    induction tables generalizing next with
    | nil => rfl
    | cons table tables ih => simp [rootsFrom, ih]
  exact roots _ _

theorem catalogEntries_eq : image.catalogEntries = (image.tables.zip image.rootPages).map (fun (table, _, root) =>
    ⟨.table, table.name, table.name, root, some table.sql⟩) ++ image.entries := by
  rw [tables_zip_rootPages, List.map_map]
  rfl

theorem names_rootPages : image.rootPages.map Prod.fst = image.tables.map ImageTable.name := by
  have names (next : Nat) (tables : List ImageTable) :
      (tables.zip (image.rootsFrom next tables)).map (fun entry => entry.1.name) = tables.map ImageTable.name := by
    induction tables generalizing next with
    | nil => rfl
    | cons table tables ih => simp [rootsFrom, ih]
  rw [rootPages, List.map_map]
  exact names _ _

/-- The header of the file that an image describes, when it has so many pages. -/
def fileHeader (pageCount : Nat) : FileHeader := { image.header with pageCount := UInt32.ofNat pageCount }

/-- The pages of the file: the catalog page, which is `body` behind the file header, then those of the tables. -/
def filePages (body : Bytes) (groups : List (List Bytes)) : List Bytes :=
  ((image.fileHeader (groups.flatten.length + 1)).toBytes ++ body) :: groups.flatten

/-- The pages of an image are laid out, and the file is made of them. -/
structure Written (file body : Bytes) (groups : List (List Bytes)) : Prop where
  catalog : leafPage catalogRoot image.header.pageSize.toNat image.catalogTable.rows = .ok (Bytes.zeros 100 ++ body)
  tables : image.placed.map (fun (table, root) => image.tablePages image.header.pageSize.toNat table root) =
    groups.map .ok
  file_eq : file = Bytes.concat (image.filePages body groups)
  sized : ∀ data ∈ image.filePages body groups, data.size = image.header.pageSize.toNat

section
variable {image} {file body : Bytes} {groups : List (List Bytes)} (enough : 512 ≤ image.header.pageSize.toNat)
  (most : image.header.pageSize.toNat ≤ 65536)

include enough in
/-- A file without patches is the pages of its image. -/
theorem written_of_bytes (built : image.bytes = .ok file) (noPatches : image.patches = []) :
    ∃ body groups, image.Written file body groups := by
  obtain ⟨catalogPage, catalog, built⟩ := Outcomes.ok_of_bind built
  obtain ⟨groups, tables, built⟩ := Outcomes.ok_of_bind built
  rw [Outcomes.mapM_eq_ok_iff] at tables
  rw [noPatches, List.foldlM_nil] at built
  have isFile : _ = file := Except.ok.inj built
  have size := size_leafPage catalog enough
  obtain ⟨body, rfl⟩ := zeros_of_leafPage catalog enough
  have front : (Bytes.zeros (pageStart catalogRoot)).size = 100 := Bytes.size_zeros 100
  refine ⟨body, groups, catalog, tables, ?_, ?_⟩
  · rw [← isFile, Bytes.concat_cons, filePages, Bytes.concat_cons, List.length_cons, fileHeader]
    exact overwrite_front _ _ _ _ ((FileHeader.size_toBytes _).trans front.symm)
  · intro data inside
    rcases List.mem_cons.1 inside with rfl | among
    · rw [Array.size_append, front] at size
      rw [Array.size_append, FileHeader.size_toBytes, size]
    · obtain ⟨group, isGroup, among⟩ := List.mem_flatten.1 among
      have result : (.ok group : Except Error (List Bytes)) ∈ groups.map .ok := List.mem_map_of_mem isGroup
      rw [← tables] at result
      obtain ⟨⟨table, root⟩, -, laid⟩ := List.mem_map.1 result
      exact image.size_of_tablePages enough laid among

theorem Written.size_eq (written : image.Written file body groups) :
    file.size = (groups.flatten.length + 1) * image.header.pageSize.toNat := by
  rw [written.file_eq, Bytes.size_concat_of_size written.sized, filePages, List.length_cons]

include enough in
/-- The catalog page and the pages of each table make up the file. -/
theorem size_of_bytes (built : image.bytes = .ok file) (noPatches : image.patches = []) :
    file.size = (1 + (image.tables.map image.pagesOf).sum) * image.header.pageSize.toNat := by
  obtain ⟨body, groups, written⟩ := written_of_bytes enough built noPatches
  rw [written.size_eq, length_flatten written.tables, Nat.add_comm 1]

/-- The file opens with its header. -/
theorem Written.opens (written : image.Written file body groups) (magic : image.header.magic = FileHeader.sqliteMagic)
    (utf8 : image.header.textEncoding = .utf8) (valid : FileHeader.ValidPageSize image.header.pageSize.toNat)
    (settings : Settings) : Database.ofFile file settings = .ok ⟨image.fileHeader (groups.flatten.length + 1),
      .new file image.header.pageSize.toNat settings.pageCache⟩ := by
  rw [written.file_eq, filePages, Bytes.concat_cons, Array.append_assoc]
  exact @Database.ofFile_append (image.fileHeader (groups.flatten.length + 1)) magic valid utf8 _ settings

include enough most in
/-- The catalog of the file lists the entries of the image. -/
theorem Written.entries (written : image.Written file body groups)
    (known : ∀ entry ∈ image.entries, ∃ word, entry.kind = .ofWord word) {pager : Pager}
    (onFile : pager.Over file image.header.pageSize.toNat) :
    (Catalog.entries.on pager).1 = .ok ⟨image.catalogEntries, []⟩ := by
  have loaded : pageOf file image.header.pageSize.toNat catalogRoot = .ok (_ ++ body) :=
    written.file_eq ▸ pageOf_concat written.sized (by decide) rfl
  obtain ⟨below, outcomes, skipped⟩ :=
    visit_leafPage written.catalog enough most (FileHeader.size_toBytes _) loaded
  have met : visits (pageOf file image.header.pageSize.toNat) catalogRoot ∅ [catalogRoot] =
      [Visit.of (pageOf file image.header.pageSize.toNat) catalogRoot] := by
    rw [visits_fresh _ _ (by simp), below, visits_nil, triedBy_nil, visits_nil]
    rfl
  have scanned := scanned_of_visits onFile catalogRoot (image.catalogTable.rows.map storedCell)
    (by rw [met]; simpa using outcomes) (by rw [met]; simpa using skipped)
  exact Catalog.on_entries (Prod.ext scanned rfl) (image.entryOf_catalogTable written.catalog enough most known)

/-- The pages of a table stand in the file from its root page on. -/
theorem Written.loaded (written : image.Written file body groups) (few : groups.flatten.length + 1 < 2 ^ 32)
    {before pages after : List Bytes} {root : PageNumber} (split : groups.flatten = before ++ pages ++ after)
    (filled : 0 < pages.length) (number : root = UInt32.ofNat (2 + before.length)) :
    Loaded (pageOf file image.header.pageSize.toNat) root pages := by
  rw [split] at few
  simp only [List.length_append] at few
  have rootNumber : root.toNat = 2 + before.length := by
    rw [number]
    exact UInt32.toNat_ofNat_of_lt' (show _ < 2 ^ 32 by omega)
  refine ⟨by omega, by omega, ?_⟩
  intro i data there
  obtain ⟨below, -⟩ := List.getElem?_eq_some_iff.1 there
  have page : (UInt32.ofNat (root.toNat + i)).toNat = before.length + i + 2 := by
    rw [UInt32.toNat_ofNat_of_lt' (show _ < 2 ^ 32 by omega)]
    omega
  rw [written.file_eq]
  apply pageOf_concat written.sized
  · intro zero
    rw [zero] at page
    simp at page
  · rw [page, filePages, show before.length + i + 2 - 1 = before.length + i + 1 by omega, List.getElem?_cons_succ, split,
      List.append_assoc, List.getElem?_append_right (by omega), Nat.add_sub_cancel_left,
      List.getElem?_append_left below, there]

include enough most in
/-- A scan from the root page of a table gives its rows. -/
theorem Written.rows (written : image.Written file body groups) (few : groups.flatten.length + 1 < 2 ^ 32)
    {pager : Pager} (onFile : pager.Over file image.header.pageSize.toNat) {table : ImageTable} {root : PageNumber}
    (placed : (table, root) ∈ image.placed) :
    ((scanTable root).on pager).1 = .ok ⟨table.rows.map storedCell, []⟩ := by
  obtain ⟨before, pages, after, split, number, laid⟩ := of_placed written.tables placed
  have filled : 0 < pages.length := by
    rw [image.length_tablePages laid]
    exact image.pagesOf_pos table
  have loaded := written.loaded few split filled number
  obtain ⟨outcomes, skipped⟩ := visits_of_loaded enough most laid loaded
  exact scanned_of_visits onFile root _ outcomes skipped

end

/-- The image of these tables alone, with the smallest pages. -/
def ofTables (tables : List ImageTable) : Image := { empty with header := smallHeader, tables }

/-- The file of such an image opens, its catalog lists the tables, and each has its rows. -/
theorem opens_ofTables {tables : List ImageTable} (possible : (ofTables tables).bytes.toOption.isSome = true)
    (few : (tables.map (ofTables tables).pagesOf).sum + 1 < 2 ^ 32) :
    ∃ file database, (ofTables tables).bytes = .ok file ∧ Database.ofFile file .default = .ok database ∧
      database.pager.Over file 512 ∧
      (Catalog.entries.on database.pager).1 = .ok ⟨(ofTables tables).catalogEntries, []⟩ ∧
      ∀ table root, (table, root) ∈ (ofTables tables).placed →
        ((scanTable root).on database.pager).1 = .ok ⟨table.rows.map storedCell, []⟩ := by
  have valid : FileHeader.ValidPageSize (ofTables tables).header.pageSize.toNat := valid_smallHeader
  obtain ⟨enough, most, -⟩ := id valid
  obtain ⟨file, built⟩ := Outcomes.exists_ok_of_isSome possible
  obtain ⟨body, groups, written⟩ := written_of_bytes enough built rfl
  have opened := written.opens rfl rfl valid .default
  have onFile := Database.over_of_ofFile opened
  have pages : groups.flatten.length = (tables.map (ofTables tables).pagesOf).sum := length_flatten written.tables
  refine ⟨file, _, built, opened, onFile, written.entries enough most nofun onFile, fun table root placed => ?_⟩
  exact written.rows enough most (by omega) onFile placed

end Image

/-- The file that an image describes reads back as it: its header with the number of pages, its catalog with one
entry for each table at the root page announced for it, and the rows of each table. An image keeps the magic of
the initial header, of which only the page size and the text encoding are chosen. -/
theorem image_reads_back {image : Image} {file : Bytes} (magic : image.header.magic = FileHeader.sqliteMagic)
    (utf8 : image.header.textEncoding = .utf8) (valid : FileHeader.ValidPageSize image.header.pageSize.toNat)
    (noPatches : image.patches = []) (known : ∀ entry ∈ image.entries, ∃ word, entry.kind = .ofWord word)
    (built : image.bytes = .ok file) (few : file.size / image.header.pageSize.toNat < 2 ^ 32) (settings : Settings) :
    ∃ database, Database.ofFile file settings = .ok database ∧
      database.header = { image.header with pageCount := database.header.pageCount } ∧
      database.header.pageCount.toNat = database.pager.pageCount ∧
      database.pager.pageCount * image.header.pageSize.toNat = file.size ∧
      image.rootPages.map Prod.fst = image.tables.map ImageTable.name ∧
      (Catalog.entries.on database.pager).1 = .ok ⟨(image.tables.zip image.rootPages).map (fun (table, _, root) =>
        ⟨.table, table.name, table.name, root, some table.sql⟩) ++ image.entries, []⟩ ∧
      ∀ table name root, (table, name, root) ∈ image.tables.zip image.rootPages →
        ((scanTable root).on database.pager).1 =
          .ok ⟨table.rows.map fun row => ⟨row.1, UInt64.ofNat row.2.size, row.2⟩, []⟩ := by
  obtain ⟨enough, most, -⟩ := id valid
  obtain ⟨body, groups, written⟩ := Image.written_of_bytes enough built noPatches
  have size := written.size_eq
  have count : file.size / image.header.pageSize.toNat = groups.flatten.length + 1 := by
    rw [size, Nat.mul_div_cancel _ (by omega)]
  rw [count] at few
  have onFile := Pager.over_new file image.header.pageSize.toNat settings.pageCache
  have opened := written.opens magic utf8 valid settings
  refine ⟨_, opened, rfl, ?_, ?_, image.names_rootPages, ?_, ?_⟩
  · exact (UInt32.toNat_ofNat_of_lt' few).trans count.symm
  · exact (congrArg (· * image.header.pageSize.toNat) count).trans size.symm
  · rw [← image.catalogEntries_eq]
    exact written.entries enough most known onFile
  · intro table name root inside
    rw [image.tables_zip_rootPages] at inside
    obtain ⟨⟨table', root'⟩, placed, same⟩ := List.mem_map.1 inside
    cases same
    exact written.rows enough most few onFile placed

/-- A table of two rows on two leaves, a table without rows, and a view. -/
def splitImage : Image where
  header := { FileHeader.initial with pageSize := 512 }
  tables := [⟨"t", "CREATE TABLE t(a)", [(1, #[2, 9]), (-5, #[])]⟩, ⟨"u", "CREATE TABLE u(a)", []⟩]
  entries := [⟨.view, "v", "v", 0, none⟩]
  rowsPerLeaf := some 1
  patches := []

theorem image_reads_back_split : ∃ file database, splitImage.bytes = .ok file ∧
    Database.ofFile file .default = .ok database ∧ database.pager.pageCount = 5 ∧
    (Catalog.entries.on database.pager).1 = .ok ⟨[⟨.table, "t", "t", 2, some "CREATE TABLE t(a)"⟩,
      ⟨.table, "u", "u", 5, some "CREATE TABLE u(a)"⟩, ⟨.view, "v", "v", 0, none⟩], []⟩ ∧
    ((scanTable 2).on database.pager).1 = .ok ⟨[⟨1, 2, #[2, 9]⟩, ⟨-5, 0, #[]⟩], []⟩ ∧
    ((scanTable 5).on database.pager).1 = .ok ⟨[], []⟩ := by
  have valid : FileHeader.ValidPageSize splitImage.header.pageSize.toNat := valid_smallHeader
  obtain ⟨file, built⟩ : ∃ file, splitImage.bytes = .ok file := Outcomes.exists_ok_of_isSome (by decide +kernel)
  have size := Image.size_of_bytes valid.1 built rfl
  have pages : (splitImage.tables.map splitImage.pagesOf).sum = 4 := by decide +kernel
  have pageSize : splitImage.header.pageSize.toNat = 512 := by decide
  rw [pages, pageSize] at size
  obtain ⟨database, opened, -, -, count, -, entries, rows⟩ := image_reads_back rfl rfl valid rfl
    (fun entry inside => ⟨"view", by rw [List.mem_singleton.1 inside]; decide⟩) built
    (by rw [size, pageSize]; decide) .default
  have roots : splitImage.rootPages = [("t", 2), ("u", 5)] := by decide +kernel
  rw [size, pageSize] at count
  rw [roots] at entries rows
  exact ⟨file, database, built, opened, by omega, entries,
    rows ⟨"t", "CREATE TABLE t(a)", [(1, #[2, 9]), (-5, #[])]⟩ "t" 2 List.mem_cons_self,
    rows ⟨"u", "CREATE TABLE u(a)", []⟩ "u" 5 (List.mem_cons_of_mem _ List.mem_cons_self)⟩

end SqliteReader
