import SqliteReader.Proofs.PageLayout

/-!
# Writing pages and reading them back

Laying out a page fails just when its cells do not fit behind the pointers to them (`exists_error_iff`). A page that was
laid out is read as one of the same kind, with a header that counts the cells and says where they begin, and the rows
of a leaf or the children of an interior page are those that were given, in their order (`pages_read_back`).
-/
namespace SqliteReader.Image

variable {page : PageNumber} {pageSize : Nat}

/-- There is no other reason to refuse a page than that its cells do not fit. -/
theorem exists_error_iff {kind : PageKind} {cells : List Bytes} {rightMost : Option PageNumber} (least : 512 ≤ pageSize) :
    (∃ error, layOut page pageSize kind cells rightMost = .error error) ↔
      pageSize < floorOf page kind cells.length + total cells := by
  constructor
  · rintro ⟨error, failed⟩
    by_contra fits
    rw [layOut_of_fits (Nat.not_lt.1 fits)] at failed
    cases failed
  · intro large
    cases laid : layOut page pageSize kind cells rightMost with
    | error error => exact ⟨error, rfl⟩
    | ok data =>
      have fits := fits_of_layOut laid least
      omega

theorem read_of_layOut {kind : PageKind} {cells : List Bytes} {rightMost : Option PageNumber} {data : Bytes}
    (laid : layOut page pageSize kind cells rightMost = .ok data) (ends : rightMost.isNone = kind.isLeaf)
    (least : 512 ≤ pageSize) (most : pageSize ≤ 65536) :
    Page.read page data = .ok (laidOut page pageSize kind cells rightMost (Bytes.zeros (pageStart page))) := by
  rw [eq_of_layOut laid least]
  exact read_laidOut ends (fits_of_layOut laid least) most (Bytes.size_zeros _)

/-- The rows of a leaf that was laid out are read back. -/
theorem leafCells_of_leafPage {rows : List (RowId × Bytes)} {data : Bytes}
    (laid : leafPage page pageSize rows = .ok data) (least : 512 ≤ pageSize) (most : pageSize ≤ 65536) :
    ∃ read, Page.read page data = .ok read ∧ read.kind = .leafTable ∧ read.header.cellCount.toNat = rows.length ∧
      read.header.contentStart = pageSize - total (rows.map fun row => leafCell row.1 row.2) ∧
      read.leafCells = ⟨rows.map storedCell, []⟩ := by
  have fits := fits_of_layOut laid least
  have count := UInt16.toNat_ofNat_of_lt' (length_lt fits most)
  have rowsRead := @rowsAt_laidOut page pageSize _ rows fits most (Bytes.size_zeros _)
  refine ⟨_, read_of_layOut laid rfl least most, rfl, count.trans (List.length_map _), rfl, ?_⟩
  rw [Page.leafCells_eq, rowsRead, Outcomes.results_map_ok, Outcomes.failures_map_ok]

/-- The children of an interior page that was laid out are read back, the last one from the header. -/
theorem interiorCells_of_layOut {children : List (PageNumber × RowId)} {last : PageNumber} {data : Bytes}
    (laid : layOut page pageSize .interiorTable (children.map fun child => interiorCell child.1 child.2) (some last) =
      .ok data) (least : 512 ≤ pageSize) (most : pageSize ≤ 65536) :
    ∃ read, Page.read page data = .ok read ∧ read.kind = .interiorTable ∧
      read.header.cellCount.toNat = children.length ∧
      read.header.contentStart = pageSize - total (children.map fun child => interiorCell child.1 child.2) ∧
      read.interiorCells = ⟨children.map fun child => ⟨child.1, child.2⟩, []⟩ ∧ read.header.rightMost = some last := by
  have fits := fits_of_layOut laid least
  have count := UInt16.toNat_ofNat_of_lt' (length_lt fits most)
  have childrenRead := @childrenAt_laidOut page pageSize _ children last fits most (Bytes.size_zeros _)
  refine ⟨_, read_of_layOut laid rfl least most, rfl, count.trans (List.length_map _), rfl, ?_, rfl⟩
  rw [Page.interiorCells_eq, childrenRead, Outcomes.results_map_ok, Outcomes.failures_map_ok]

/-- A page is laid out when its cells fit behind its header and the pointers to them, and is refused when they do not.
What was laid out reads back: a leaf with the rows, and an interior page with all children but the last as its cells
and the last one in its header. -/
theorem pages_read_back (page : PageNumber) {pageSize : Nat} (least : 512 ≤ pageSize) (most : pageSize ≤ 65536) :
    (∀ rows : List (RowId × Bytes),
      ((∃ error, leafPage page pageSize rows = .error error) ↔ pageSize <
        pageStart page + 8 + rows.length * 2 + total (rows.map fun row => leafCell row.1 row.2)) ∧
      ∀ data, leafPage page pageSize rows = .ok data → ∃ read, Page.read page data = .ok read ∧
        read.kind = .leafTable ∧ read.header.cellCount.toNat = rows.length ∧
        read.header.contentStart = pageSize - total (rows.map fun row => leafCell row.1 row.2) ∧
        read.leafCells = ⟨rows.map storedCell, []⟩) ∧
    ∀ (children : List (PageNumber × RowId)) (last : PageNumber × RowId),
      ((∃ error, interiorPage page pageSize (children ++ [last]) = .error error) ↔ pageSize <
        pageStart page + 12 + children.length * 2 + total (children.map fun child => interiorCell child.1 child.2)) ∧
      ∀ data, interiorPage page pageSize (children ++ [last]) = .ok data → ∃ read, Page.read page data = .ok read ∧
        read.kind = .interiorTable ∧ read.header.cellCount.toNat = children.length ∧
        read.header.contentStart = pageSize - total (children.map fun child => interiorCell child.1 child.2) ∧
        read.interiorCells = ⟨children.map fun child => ⟨child.1, child.2⟩, []⟩ ∧
        read.header.rightMost = some last.1 := by
  constructor
  · intro rows
    refine ⟨?_, fun data laid => leafCells_of_leafPage laid least most⟩
    rw [leafPage, exists_error_iff least, floorOf, List.length_map]
    rfl
  · intro children last
    have parts : interiorPage page pageSize (children ++ [last]) = layOut page pageSize .interiorTable
        (children.map fun child => interiorCell child.1 child.2) (some last.1) := by
      simp [interiorPage]
    rw [parts]
    refine ⟨?_, fun data laid => interiorCells_of_layOut laid least most⟩
    rw [exists_error_iff least, floorOf, List.length_map]
    rfl

/-- A first page with one row that fills it reads back, with one more byte it is refused, and on a page of the greatest
size without rows the cells would begin at its end, a place that two bytes do not hold. -/
theorem pages_read_back_full :
    (∃ data read, leafPage 1 512 [(7, Bytes.zeros 399)] = .ok data ∧ Page.read 1 data = .ok read ∧
      read.leafCells = ⟨[⟨7, 399, Bytes.zeros 399⟩], []⟩) ∧
    (∃ error, leafPage 1 512 [(7, Bytes.zeros 400)] = .error error) ∧
    ∃ data read, leafPage 2 65536 [] = .ok data ∧ Page.read 2 data = .ok read ∧ read.header.contentStart = 65536 := by
  have given {page : PageNumber} {pageSize : Nat} {rows : List (RowId × Bytes)} (fits : ¬ ∃ error,
      leafPage page pageSize rows = .error error) : ∃ data, leafPage page pageSize rows = .ok data := by
    cases laid : leafPage page pageSize rows with
    | error error => exact absurd ⟨error, laid⟩ fits
    | ok data => exact ⟨data, rfl⟩
  have sized (n : Nat) (wide : (Varint.encode (UInt64.ofNat n)).size = 2) : (leafCell 7 (Bytes.zeros n)).size = 3 + n := by
    have one : (Varint.encode (7 : RowId).toUInt64).size = 1 := by decide +kernel
    simp only [leafCell, Array.size_append, Bytes.size_zeros, wide, one]
  obtain ⟨onFirst, -⟩ := @pages_read_back 1 512 (by decide) (by decide)
  obtain ⟨onLargest, -⟩ := @pages_read_back 2 65536 (by decide) (by decide)
  refine ⟨?_, ?_, ?_⟩
  · obtain ⟨refused, reads⟩ := onFirst [(7, Bytes.zeros 399)]
    obtain ⟨data, laid⟩ := given (by
      rw [refused]
      simp [total, sized 399 (by decide +kernel), pageStart])
    obtain ⟨read, readBack, -, -, -, rows⟩ := reads data laid
    have cell : storedCell (7, Bytes.zeros 399) = ⟨7, 399, Bytes.zeros 399⟩ := by
      simp only [storedCell, Bytes.size_zeros]
      rfl
    rw [List.map_singleton, cell] at rows
    exact ⟨data, read, laid, readBack, rows⟩
  · refine (onFirst [(7, Bytes.zeros 400)]).1.2 ?_
    simp [total, sized 400 (by decide +kernel), pageStart]
  · obtain ⟨refused, reads⟩ := onLargest []
    obtain ⟨data, laid⟩ := given (by
      rw [refused]
      simp [pageStart])
    obtain ⟨read, readBack, -, -, start, -⟩ := reads data laid
    exact ⟨data, read, laid, readBack, start⟩

end SqliteReader.Image
