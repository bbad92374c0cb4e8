import SqliteReader.FileHeader
import SqliteReader.Page
import SqliteReader.Proofs.PageCells
import SqliteReader.Proofs.Trapping

/-!
# Pages with traps

The header of a file, the place of a page in it, and pages with their cells, in steps that may stop. A file header is
looked at only when it is whole, a page header as far as its kind says, and a cell only from the place that its pointer
gives inside the page.
-/
namespace SqliteReader.Trapping

/-! ## File headers -/

/-- `FileHeader.ofBytes` with traps. -/
def fileHeader (bytes : Bytes) : Trapping FileHeader := do
  if bytes.size < 100 then throw (.invalidHeader (.tooShort bytes.size))
  let word (offset : Nat) : Trapping UInt32 := UInt32.ofNat <$> natAt bytes offset 4
  let magic ← block bytes 0 16
  if magic ≠ FileHeader.sqliteMagic then throw (.invalidHeader .wrongMagic)
  let pageSize ← answer (FileHeader.readPageSize (← natAt bytes 16 2))
  let reserved ← block bytes 72 20
  let textEncoding ← answer (TextEncoding.ofStored (← natAt bytes 56 4))
  return {
    magic, pageSize, textEncoding, reserved
    writeVersion := ← byte bytes 18
    readVersion := ← byte bytes 19
    reservedSpace := ← byte bytes 20
    maxPayloadFraction := ← byte bytes 21
    minPayloadFraction := ← byte bytes 22
    leafPayloadFraction := ← byte bytes 23
    changeCounter := ← word 24
    pageCount := ← word 28
    freelistTrunk := ← word 32
    freelistCount := ← word 36
    schemaCookie := ← word 40
    schemaFormat := ← word 44
    defaultCacheSize := ← word 48
    largestRoot := ← word 52
    userVersion := ← word 60
    incrementalVacuum := ← word 64
    applicationId := ← word 68
    versionValidFor := ← word 92
    sqliteVersion := ← word 96 }

theorem fileHeader_eq (bytes : Bytes) : fileHeader bytes = answer (FileHeader.ofBytes bytes) := by
  unfold fileHeader FileHeader.ofBytes
  by_cases short : bytes.size < 100
  · rw [if_pos short, dif_pos short]
    rfl
  · have number (offset width : Nat) (inside : offset + width ≤ 100) :
        natAt bytes offset width = pure (bytes.natAt offset width) :=
      natAt_eq (by omega) (show offset + width < 2 ^ 64 by omega)
    have one (offset : Nat) (inside : offset < 100) : byte bytes offset = pure bytes[offset] := byte_eq (by omega)
    have magic : block bytes 0 16 = pure (Vector.ofFn fun i : Fin 16 => bytes[i.val]) := by
      rw [block_eq (by omega) (by decide)]
      simp only [Nat.zero_add]
    rw [if_neg short, dif_neg short, magic, pure_bind]
    dsimp only
    split
    · rfl
    · rw [number 16 2 (by decide), pure_bind]
      refine answer_bind fun pageSize _ => ?_
      rw [block_eq (by omega) (by decide), pure_bind, number 56 4 (by decide), pure_bind]
      refine answer_bind fun textEncoding _ => ?_
      simp (disch := decide) only [one, number, map_pure, pure_bind]
      rfl

/-! ## Pages of a file -/

/-- Where a page begins in the file. -/
def pageOffset (pageSize : Nat) (page : PageNumber) : Trapping Nat := do mul (← sub page.toNat 1) pageSize

/-- `Pager.read` with traps. -/
def loadPage (pager : Pager) (page : PageNumber) : Option (Except Error Bytes × Pager) :=
  if page = 0 then some (.error (.outOfBounds .pageNumber 0 0), pager)
  else match pager.kept? page with
    | some data => some (.ok data, pager)
    | none =>
      match (pageOffset pager.pageSize page).run with
      | none => none
      | some (.error error) => some (.error error, pager)
      | some (.ok offset) =>
        match pager.file.slice? offset (offset + pager.pageSize) with
        | some data => some (.ok data, pager.keep page data)
        | none => some (.error .endOfFile, pager)

/-- The greatest page of the greatest size begins at a word. -/
theorem loadPage_eq {pager : Pager} (small : pager.pageSize < UInt32.size) (page : PageNumber) :
    loadPage pager page = some (pager.read page) := by
  unfold loadPage Pager.read
  by_cases zero : page = 0
  · rw [if_pos zero, if_pos zero]
  · have positive : 1 ≤ page.toNat := Nat.pos_of_ne_zero fun none => zero (UInt32.toNat_inj.1 none)
    have fits : (page.toNat - 1) * pager.pageSize < UInt32.size * UInt32.size :=
      Nat.mul_lt_mul'' (Nat.lt_of_le_of_lt (Nat.sub_le _ _) page.toNat_lt) small
    rw [if_neg zero, if_neg zero, pageOffset, sub_eq positive, pure_bind, mul_eq fits]
    cases pager.kept? page with
    | some data => rfl
    | none =>
      show (match pager.stored? page with | some data => _ | none => _) = _
      cases pager.stored? page <;> rfl

/-! ## Page headers -/

/-- `PageHeader.read` with traps. -/
def pageHeader (page : PageNumber) (data : Bytes) : Trapping PageHeader := do
  let start := pageStart page
  let outside : Error := .outOfBounds .pageHeader start data.size
  if data.size < (← add start 8) then throw outside
  let kind ← answer (PageKind.ofTag page (← byte data start))
  if data.size < (← add start kind.headerSize) then throw outside
  let contentStart ← natAt data (← add start 5) 2
  let rightMost ← if kind.isLeaf then pure none else some <$> UInt32.ofNat <$> natAt data (← add start 8) 4
  return {
    kind, rightMost
    firstFreeblock := UInt16.ofNat (← natAt data (← add start 1) 2)
    cellCount := UInt16.ofNat (← natAt data (← add start 3) 2)
    contentStart := if contentStart = 0 then 65536 else contentStart
    fragmentedBytes := ← byte data (← add start 7) }

theorem pageHeader_eq (page : PageNumber) {data : Bytes} (small : data.size < sizeLimit) :
    pageHeader page data = answer (PageHeader.read page data) := by
  have limit : sizeLimit + 112 < UInt64.size := by decide
  have early := pageStart_le page
  unfold pageHeader PageHeader.read
  dsimp only
  rw [add_eq (by omega), pure_bind]
  by_cases short : data.size < pageStart page + 8
  · rw [if_pos short, Bytes.slice?, if_neg (by omega)]
    rfl
  · have tag : (data.extract (pageStart page) (pageStart page + 8))[0]?.getD 0 = data[pageStart page] := by
      rw [Array.getElem?_extract, if_pos (by omega), Nat.add_zero, Array.getElem?_eq_getElem (by omega), Option.getD_some]
    rw [if_neg short, Bytes.slice?, if_pos (by omega), byte_eq (by omega), pure_bind]
    dsimp only
    rw [tag]
    refine answer_bind fun kind _ => ?_
    obtain ⟨least, most⟩ := kind.headerSize_bounds
    rw [add_eq (by omega), pure_bind]
    by_cases cut : data.size < pageStart page + kind.headerSize
    · rw [if_pos cut, Bytes.slice?, if_neg (by omega)]
      rfl
    · rw [if_neg cut, Bytes.slice?, if_pos (by omega)]
      generalize isHead : data.extract (pageStart page) (pageStart page + kind.headerSize) = head
      have number (offset width : Nat) (inside : offset + width ≤ kind.headerSize) :
          natAt data (pageStart page + offset) width = pure (Bytes.natAt head offset width) := by
        rw [natAt_eq (by omega) (by omega), ← isHead, Bytes.natAt_extract (by omega)]
      have fragments : byte data (pageStart page + 7) = pure (UInt8.ofNat (Bytes.natAt head 7 1)) := by
        rw [byte_eq (by omega), ← isHead, Bytes.natAt_extract (by omega), Bytes.natAt_one (by omega), UInt8.ofNat_toNat]
      rw [add_eq (by omega), pure_bind, number 5 2 (by omega), pure_bind]
      dsimp only
      cases leaf : kind.isLeaf with
      | true =>
        simp (disch := omega) only [if_true, pure_bind, add_eq, number, fragments]
        rfl
      | false =>
        have long : kind.headerSize = 12 := by rw [PageKind.headerSize, leaf]; rfl
        simp (disch := omega) only [Bool.false_eq_true, if_false, pure_bind, add_eq, number, fragments, map_pure]
        rfl

/-! ## Pages -/

/-- The pointers in the whole chunks of `array`. -/
def pointers (array : Bytes) : Trapping (List UInt16) :=
  (List.range (array.size / pointerSize)).mapM fun i => do
    let chunk := array.extract (i * pointerSize) (i * pointerSize + pointerSize)
    UInt16.ofNat <$> natAt chunk 0 pointerSize

/-- `Page.read` with traps. -/
def page (number : PageNumber) (data : Bytes) : Trapping Page := do
  let header ← pageHeader number data
  let count := header.cellCount.toNat
  let first ← add (pageStart number) header.size
  let last ← add first (← mul count pointerSize)
  if data.size < last then throw (.corruptedPage number (.tooManyPointers count data.size))
  return ⟨number, header, ← pointers (← slice data first last), data⟩

theorem pointers_eq {data : Bytes} {first count : Nat} (inside : first + count * pointerSize ≤ data.size) :
    pointers (data.extract first (first + count * pointerSize)) = pure (Page.pointersAt data first count) := by
  rw [pointerSize] at inside
  have sized : (data.extract first (first + count * pointerSize)).size / pointerSize = count := by
    rw [Array.size_extract, pointerSize]
    omega
  unfold pointers Page.pointersAt
  rw [sized]
  refine mapM_eq _ fun i below => ?_
  have below := List.mem_range.1 below
  have whole : 0 + pointerSize ≤ ((data.extract first (first + count * pointerSize)).extract (i * pointerSize)
      (i * pointerSize + pointerSize)).size := by
    rw [Array.size_extract, Array.size_extract, pointerSize]
    omega
  dsimp only
  rw [natAt_eq whole (by decide), map_pure, Bytes.natAt_extract (by omega),
    Bytes.natAt_extract (by rw [pointerSize]; omega), Nat.add_zero]

theorem page_eq (number : PageNumber) {data : Bytes} (small : data.size < sizeLimit) :
    page number data = answer (Page.read number data) := by
  have early := pageStart_le number
  unfold page Page.read
  rw [pageHeader_eq number small]
  refine answer_bind fun header _ => ?_
  have headerSize : header.size ≤ 12 := header.kind.headerSize_bounds.2
  have array : header.cellCount.toNat * pointerSize < 65536 * 2 :=
    (Nat.mul_lt_mul_right (by decide)).2 header.cellCount.toNat_lt
  have words : 200000 < UInt64.size := by decide
  dsimp only
  rw [add_eq (by omega), pure_bind, mul_eq (by omega), pure_bind, add_eq (by omega), pure_bind]
  by_cases long : data.size < pageStart number + header.size + header.cellCount.toNat * pointerSize
  · rw [if_pos long, if_pos long]
    rfl
  · rw [if_neg long, if_neg long, slice_eq (Nat.le_add_right _ _) (by omega), pure_bind, pointers_eq (by omega), pure_bind]
    rfl

/-- The places in a page with this number of pointers are words. -/
structure Fits (page : Page) : Prop where
  small : page.data.size < sizeLimit
  pointers : page.pointers.length * pointerSize ≤ page.data.size

theorem fits_of_read {number : PageNumber} {data : Bytes} {page : Page} (small : data.size < sizeLimit)
    (read : Page.read number data = .ok page) : Fits page := by
  obtain ⟨-, rfl, inside⟩ := Page.of_read read
  exact ⟨small, by rw [pointerSize]; omega⟩

/-- `Page.contentFloor` with traps. -/
def contentFloor (page : Page) : Trapping Nat := do
  add (← add (pageStart page.number) page.header.size) (← mul page.pointers.length pointerSize)

/-- `Page.cellOffset` with traps. -/
def cellOffset (page : Page) (pointer : UInt16) : Trapping Nat := do
  let offset := pointer.toNat
  if offset < (← contentFloor page) ∨ page.data.size ≤ offset then
    throw (.outOfBounds (.cellPointer page.number) offset page.data.size)
  return offset

/-- `Page.leafCell` with traps. -/
def leafCell (page : Page) (pointer : UInt16) : Trapping LeafCell := do
  let offset ← cellOffset page pointer
  let (payloadSize, sizeLength) ← varint page.data offset
  let (rowId, idLength) ← signedVarint page.data (← add offset sizeLength)
  let start ← add (← add offset sizeLength) idLength
  let outside : Error := .outOfBounds (.payload rowId page.number) start page.data.size
  let stop ← addOr start payloadSize.toNat outside
  if page.data.size < stop then throw outside
  return ⟨rowId, payloadSize, ← slice page.data start stop⟩

/-- `Page.interiorCell` with traps. -/
def interiorCell (page : Page) (pointer : UInt16) : Trapping InteriorCell := do
  let offset ← cellOffset page pointer
  if page.data.size < (← add offset 4) then throw (.outOfBounds .childPointer offset page.data.size)
  let leftChild ← natAt page.data offset 4
  let (key, _) ← signedVarint page.data (← add offset 4)
  return ⟨UInt32.ofNat leftChild, key⟩

/-- What a step gives, a result or an error. -/
def outcome {α : Type} (step : Trapping α) : Trapping (Except Error α) :=
  match step.run with
  | some result => pure result
  | none => trap

/-- `Page.leafCells` with traps. -/
def leafCells (page : Page) : Trapping (Partial LeafCell) :=
  Partial.ofOutcomes <$> page.pointers.mapM fun pointer => outcome (leafCell page pointer)

/-- `Page.interiorCells` with traps. -/
def interiorCells (page : Page) : Trapping (Partial InteriorCell) :=
  Partial.ofOutcomes <$> page.pointers.mapM fun pointer => outcome (interiorCell page pointer)

/-- `Page.children` with traps. -/
def children (page : Page) : Trapping (Partial PageNumber) := do
  let cells ← interiorCells page
  let (valid, invalid) :=
    (cells.results.map InteriorCell.leftChild ++ page.header.rightMost.toList).partition (· ≠ 0)
  return ⟨valid, cells.errors ++ invalid.map fun _ => .corruptedPage page.number .noChild⟩

section
variable {page : Page} (fits : Fits page)
include fits

theorem contentFloor_eq : contentFloor page = pure page.contentFloor := by
  have early := pageStart_le page.number
  have headerSize : page.header.size ≤ 12 := page.header.kind.headerSize_bounds.2
  have limit : sizeLimit + 200 < UInt64.size := by decide
  obtain ⟨small, pointers⟩ := fits
  rw [contentFloor, add_eq (by omega), pure_bind, mul_eq (by omega), pure_bind, add_eq (by omega)]
  rfl

theorem cellOffset_eq (pointer : UInt16) : cellOffset page pointer = answer (page.cellOffset pointer) := by
  unfold cellOffset Page.cellOffset
  rw [contentFloor_eq fits, pure_bind]
  dsimp only
  split <;> rfl

theorem leafCell_eq (pointer : UInt16) : leafCell page pointer = answer (page.leafCell pointer) := by
  have small := fits.small
  have limit : sizeLimit < UInt64.size := by decide
  rw [leafCell, cellOffset_eq fits, Page.leafCell]
  refine answer_bind fun offset start => ?_
  obtain ⟨-, before, place⟩ := Page.cellOffset_eq_ok_iff.1 start
  rw [varint_eq small (by omega)]
  refine answer_bind ?_
  rintro ⟨payloadSize, sizeLength⟩ sized
  have after := Varint.le_of_decode sized
  dsimp only
  rw [add_eq (by omega), pure_bind, signedVarint_eq small (by omega)]
  refine answer_bind ?_
  rintro ⟨rowId, idLength⟩ numbered
  obtain ⟨⟨value, used⟩, numbered, same⟩ := Outcomes.ok_of_bind numbered
  cases same
  have last := Varint.le_of_decode numbered
  dsimp only
  rw [pure_bind, add_eq (by omega), pure_bind, addOr, Bytes.slice?]
  by_cases word : offset + sizeLength + idLength + payloadSize.toNat < UInt64.size
  · rw [if_pos word, pure_bind]
    by_cases long : page.data.size < offset + sizeLength + idLength + payloadSize.toNat
    · rw [if_pos long, if_neg (by omega)]
      rfl
    · rw [if_neg long, if_pos (by omega), slice_eq (Nat.le_add_right _ _) (by omega), pure_bind]
      rfl
  · rw [if_neg word, if_neg (by omega)]
    rfl

theorem interiorCell_eq (pointer : UInt16) : interiorCell page pointer = answer (page.interiorCell pointer) := by
  have small := fits.small
  have limit : sizeLimit + 4 < UInt64.size := by decide
  rw [interiorCell, cellOffset_eq fits, Page.interiorCell]
  refine answer_bind fun offset start => ?_
  obtain ⟨-, before, place⟩ := Page.cellOffset_eq_ok_iff.1 start
  rw [add_eq (by omega), pure_bind, Bytes.slice?]
  by_cases short : page.data.size < offset + 4
  · rw [if_pos short, if_neg (by omega)]
    rfl
  · rw [if_neg short, if_pos (by omega), natAt_eq (by omega) (by omega), pure_bind, pure_bind,
      signedVarint_eq small (by omega)]
    exact answer_bind fun _ _ => rfl

theorem leafCells_eq : leafCells page = pure page.leafCells := by
  rw [leafCells, mapM_eq page.leafCell fun pointer _ => by rw [leafCell_eq fits]; rfl, map_pure]
  rfl

theorem interiorCells_eq : interiorCells page = pure page.interiorCells := by
  rw [interiorCells, mapM_eq page.interiorCell fun pointer _ => by rw [interiorCell_eq fits]; rfl, map_pure]
  rfl

theorem children_eq : children page = pure page.children := by
  rw [children, interiorCells_eq fits, pure_bind]
  rfl

end

end SqliteReader.Trapping
