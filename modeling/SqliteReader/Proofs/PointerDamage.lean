import Mathlib.Data.Set.Defs
import SqliteReader.Proofs.PageCells

/-!
# Damaged pointers

Two bytes are written over some pointers of a page (`Overwritten`). The page is still read, with the same header, and
at each of the other pointers there is what stood there before, a cell or an error (`damage_stays_in_slots`). This is so
because a cell starts behind all pointers and is read onwards from there, so no pointer is ever taken for a part of it
(`leafCell_congr`, `interiorCell_congr`).
-/
namespace SqliteReader

/-- A page header is read from the bytes up to its end, and from no others. -/
theorem PageHeader.read_congr {number : PageNumber} {data data' : Bytes} {header : PageHeader}
    (read : PageHeader.read number data = .ok header) (size : data'.size = data.size)
    (same : ∀ i < pageStart number + header.size, data'[i]? = data[i]?) : PageHeader.read number data' = .ok header := by
  have cut (width : Nat) (within : width ≤ header.size) : data'.slice? (pageStart number) (pageStart number + width) =
      data.slice? (pageStart number) (pageStart number + width) :=
    Bytes.slice?_congr size fun i _ below => same i (by omega)
  have least := header.kind.headerSize_bounds.1
  unfold PageHeader.read at read ⊢
  dsimp only at read ⊢
  rw [cut 8 least, size]
  split at read
  · obtain ⟨kind, tagged, read⟩ := Outcomes.ok_of_bind read
    split at read
    · rename_i whole second
      -- How far the header reaches is told by the kind that stands in its first eight bytes.
      have sized : header.size = kind.headerSize := by
        cases read
        rfl
      simp only [tagged, bind, Except.bind, cut kind.headerSize (Nat.le_of_eq sized.symm), second, read]
    · cases read
  · cases read

namespace Page

/-! ## Cells behind a floor -/

/-- Two lists of one length have the same items outside some slots. -/
structure SameBesides {α : Type} (slots : Set Nat) (items items' : List α) : Prop where
  length : items'.length = items.length
  same : ∀ slot ∉ slots, items'[slot]? = items[slot]?

theorem SameBesides.map {α β : Type} {slots : Set Nat} {items items' : List α} (alike : SameBesides slots items items')
    (f : α → β) : SameBesides slots (items.map f) (items'.map f) where
  length := by rw [List.length_map, List.length_map, alike.length]
  same slot other := by rw [List.getElem?_map, List.getElem?_map, alike.same slot other]

section
variable {page page' : Page} (number : page'.number = page.number) (floor : page'.contentFloor = page.contentFloor)
  (size : page'.data.size = page.data.size) (same : ∀ i, page.contentFloor ≤ i → page'.data[i]? = page.data[i]?)
  (pointer : UInt16)
include number floor size

theorem cellOffset_congr : page'.cellOffset pointer = page.cellOffset pointer := by
  rw [cellOffset, cellOffset, number, floor, size]

include same

/-- Pages that are the same from the end of their pointers on have the same row, or the same error, at a pointer. -/
theorem leafCell_congr : page'.leafCell pointer = page.leafCell pointer := by
  rw [leafCell, leafCell, cellOffset_congr number floor size]
  cases start : page.cellOffset pointer with
  | error error => rfl
  | ok offset =>
    obtain ⟨least, -, rfl⟩ := cellOffset_eq_ok_iff.1 start
    simp only [bind, Except.bind]
    rw [Varint.decode_congr size fun i above => same i (by omega)]
    cases Varint.decode page.data pointer.toNat with
    | error error => rfl
    | ok sized =>
      obtain ⟨payloadSize, sizeLength⟩ := sized
      dsimp only
      rw [Varint.decodeSigned_congr size fun i above => same i (by omega)]
      cases Varint.decodeSigned page.data (pointer.toNat + sizeLength) with
      | error error => rfl
      | ok numbered =>
        obtain ⟨rowId, idLength⟩ := numbered
        dsimp only
        rw [Bytes.slice?_congr size fun i above _ => same i (by omega), number, size]

theorem interiorCell_congr : page'.interiorCell pointer = page.interiorCell pointer := by
  rw [interiorCell, interiorCell, cellOffset_congr number floor size]
  cases start : page.cellOffset pointer with
  | error error => rfl
  | ok offset =>
    obtain ⟨least, -, rfl⟩ := cellOffset_eq_ok_iff.1 start
    simp only [bind, Except.bind]
    rw [Bytes.slice?_congr size fun i above _ => same i (by omega), size,
      Varint.decodeSigned_congr size fun i above => same i (by omega)]

omit pointer
variable {slots : Set Nat} (pointers : SameBesides slots page.pointers page'.pointers)
include pointers

/-- Where the pointers are the same, so is what stands there. -/
theorem rowsAt_congr : SameBesides slots page.rowsAt page'.rowsAt := by
  have cells : page'.leafCell = page.leafCell := funext (leafCell_congr number floor size same)
  rw [rowsAt, rowsAt, cells]
  exact pointers.map page.leafCell

theorem childrenAt_congr : SameBesides slots page.childrenAt page'.childrenAt := by
  have cells : page'.interiorCell = page.interiorCell := funext (interiorCell_congr number floor size same)
  rw [childrenAt, childrenAt, cells]
  exact pointers.map page.interiorCell

end

/-! ## Pointers written over -/

/-- Bytes in which two were written over the pointers in some slots, any number of times. The slots are counted from
the pointer at `first`. -/
inductive Overwritten (first : Nat) (slots : Set Nat) (data : Bytes) : Bytes → Prop
  | untouched : Overwritten first slots data data
  | write {data' : Bytes} {slot : Nat} (before : Overwritten first slots data data') (inside : slot ∈ slots)
      (high low : UInt8) : Overwritten first slots data (data'.overwrite (first + slot * 2) #[high, low])

section
variable {first count : Nat} {slots : Set Nat} {data data' : Bytes}
  (among : ∀ slot ∈ slots, slot < count) (inside : first + count * 2 ≤ data.size)
  (written : Overwritten first slots data data')
include among inside written

/-- Only the two bytes of each slot are written over. -/
theorem Overwritten.elsewhere : data'.size = data.size ∧
    ∀ i, (∀ slot ∈ slots, i ≠ first + slot * 2 ∧ i ≠ first + slot * 2 + 1) → data'[i]? = data[i]? := by
  induction written with
  | untouched => exact ⟨rfl, fun _ _ => rfl⟩
  | @write data' slot before member high low ih =>
    obtain ⟨size, same⟩ := ih
    have below := among slot member
    have room : first + slot * 2 + (#[high, low] : Bytes).size ≤ data'.size := by
      rw [size]
      show first + slot * 2 + 2 ≤ data.size
      omega
    refine ⟨(Bytes.size_overwrite room).trans size, fun i outside => ?_⟩
    obtain ⟨notHigh, notLow⟩ := outside slot member
    rw [Bytes.getElem?_overwrite room (show i < _ ∨ first + slot * 2 + 2 ≤ i by omega), same i outside]

/-- The pointers in the other slots are as they were. -/
theorem Overwritten.pointers : SameBesides slots (pointersAt data first count) (pointersAt data' first count) := by
  obtain ⟨size, same⟩ := written.elsewhere among inside
  refine ⟨by simp, fun slot other => ?_⟩
  by_cases within : slot < count
  · have pointer : data'.natAt (first + slot * pointerSize) pointerSize = data.natAt (first + slot * pointerSize) pointerSize := by
      rw [Bytes.natAt, Bytes.natAt, Bytes.extract_congr size fun i least most => same i fun damaged member => ?_]
      have different : slot ≠ damaged := fun equal => other (equal ▸ member)
      simp only [pointerSize] at least most
      omega
    simp only [pointersAt, List.getElem?_map, List.getElem?_range within, Option.map_some, pointer]
  · rw [List.getElem?_eq_none (by simpa using within), List.getElem?_eq_none (by simpa using within)]

end

theorem header_of_read {number : PageNumber} {data : Bytes} {page : Page} (read : Page.read number data = .ok page) :
    PageHeader.read number data = .ok page.header := by
  obtain ⟨header, headed, read⟩ := Outcomes.ok_of_bind read
  dsimp only at read
  split at read
  · cases read
  · cases read
    exact headed

/-- A page is read when its header is and there is room for as many pointers as this counts. -/
theorem read_of_header {number : PageNumber} {data : Bytes} {header : PageHeader}
    (headed : PageHeader.read number data = .ok header)
    (room : pageStart number + header.size + header.cellCount.toNat * 2 ≤ data.size) :
    ∃ page, Page.read number data = .ok page ∧ page.header = header := by
  refine ⟨⟨number, header, pointersAt data (pageStart number + header.size) header.cellCount.toNat, data⟩, ?_, rfl⟩
  rw [Page.read, headed]
  exact if_neg (Nat.not_lt.2 room)

/-- When some pointers of a page are written over, it is read with the same header, and at every other pointer there is
the same row or the same error, and likewise the same child or the same error. -/
theorem damage_stays_in_slots {number : PageNumber} {data data' : Bytes} {page : Page} {slots : Set Nat}
    (read : Page.read number data = .ok page) (among : ∀ slot ∈ slots, slot < page.header.cellCount.toNat)
    (written : Overwritten (pageStart number + page.kind.headerSize) slots data data') :
    ∃ page', Page.read number data' = .ok page' ∧ page'.header = page.header ∧
      (page.leafCells = .ofOutcomes page.rowsAt ∧ page'.leafCells = .ofOutcomes page'.rowsAt ∧
        SameBesides slots page.rowsAt page'.rowsAt) ∧
      page.interiorCells = .ofOutcomes page.childrenAt ∧ page'.interiorCells = .ofOutcomes page'.childrenAt ∧
        SameBesides slots page.childrenAt page'.childrenAt := by
  have headed := header_of_read read
  obtain ⟨rfl, rfl, pointers, floor, room⟩ := layout_of_read read
  rw [floor] at room
  obtain ⟨size, same⟩ := written.elsewhere among room
  -- The header lies before all slots, so it is read as it was.
  have headed' : PageHeader.read page.number data' = .ok page.header :=
    PageHeader.read_congr headed size fun i before => same i fun slot _ => by
      have before : i < pageStart page.number + page.kind.headerSize := before
      omega
  obtain ⟨page', read', header⟩ := read_of_header headed' (size ▸ room)
  obtain ⟨number, rfl, pointers', floor', -⟩ := layout_of_read read'
  rw [kind, header] at pointers' floor'
  have alike := written.pointers among room
  rw [← pointers, kind, ← pointers'] at alike
  -- The cells lie behind all slots, so they are the same from there on.
  have behind (i : Nat) (least : page.contentFloor ≤ i) : page'.data[i]? = page.data[i]? :=
    same i fun slot member => by
      have below := among slot member
      omega
  refine ⟨page', read', header, ⟨rfl, rfl, ?_⟩, rfl, rfl, ?_⟩
  · exact rowsAt_congr number (floor'.trans floor.symm) size behind alike
  · exact childrenAt_congr number (floor'.trans floor.symm) size behind alike

/-- A leaf at page one with three pointers: to two rows, and nowhere. -/
def firstPage : Page where
  number := 1
  header := ⟨.leafTable, 0, 3, 114, 0, none⟩
  pointers := [114, 117, 0]
  data := Bytes.zeros 100 ++ #[13, 0, 0, 0, 3, 0, 114, 0, 0, 114, 0, 117, 0, 0, 1, 7, 9, 1, 8, 5]

/-- The first pointer of a page is written over with one to the pointers, and the third, which led nowhere, with one to
the first row. The row at the second pointer is still there. -/
theorem damage_stays_in_slots_first : Page.read 1 firstPage.data = .ok firstPage ∧
    ∃ page', Page.read 1 ((firstPage.data.overwrite 108 #[0, 108]).overwrite 112 #[0, 114]) = .ok page' ∧
      page'.header = firstPage.header ∧ page'.rowsAt[1]? = some (.ok ⟨8, 1, #[5]⟩) := by
  have read : Page.read 1 firstPage.data = .ok firstPage := by decide +kernel
  have second : firstPage.rowsAt[1]? = some (.ok ⟨8, 1, #[5]⟩) := by decide +kernel
  have start : Overwritten 108 {slot | slot = 0 ∨ slot = 2} firstPage.data firstPage.data := .untouched
  have damaged := (start.write (.inl (Eq.refl 0)) 0 108).write (.inr (Eq.refl 2)) 0 114
  have among : ∀ slot ∈ {slot | slot = 0 ∨ slot = 2}, slot < firstPage.header.cellCount.toNat := by
    rintro slot (rfl | rfl) <;> decide
  obtain ⟨page', read', header, ⟨-, -, rows⟩, -⟩ := damage_stays_in_slots read among damaged
  refine ⟨read, page', read', header, ?_⟩
  rw [rows.same 1 (by simp), second]

end Page
end SqliteReader
