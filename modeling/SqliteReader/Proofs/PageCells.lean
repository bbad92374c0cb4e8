import SqliteReader.Proofs.Varint
import SqliteReader.Proofs.Walk

/-!
# The cells of a page

`RowAt` and `ChildAt` say what stands at an offset of a page. A pointer is read as a cell just when one stands where it
leads (`leafCell_eq_ok_iff`, `interiorCell_eq_ok_iff`), and is out of bounds otherwise. So each pointer of a page that
was read gives one cell or one error, in order (`cells_accounted_for`).
-/
namespace SqliteReader.Page

/-! ## What stands at an offset -/

/-- A row stands at `offset`, not before `floor`: a varint of the size of its payload, a varint of its row id, and
the payload, one behind the other. -/
def RowAt (data : Bytes) (floor offset : Nat) (row : LeafCell) : Prop :=
  row.payload.size = row.payloadSize.toNat ∧ floor ≤ offset ∧ ∃ size rowId,
    Varint.Whole size row.payloadSize.toNat ∧ Varint.Whole rowId row.rowId.toUInt64.toNat ∧
      data.Holds offset (size ++ rowId ++ row.payload)

/-- A child stands at `offset`, not before `floor`: its page number in four bytes, and a varint of its key. -/
def ChildAt (data : Bytes) (floor offset : Nat) (child : InteriorCell) : Prop :=
  floor ≤ offset ∧ ∃ key, Varint.Whole key child.key.toUInt64.toNat ∧
    data.Holds offset (Bytes.ofNatBE 4 child.leftChild.toNat ++ key)

section
variable {page : Page} {pointer : UInt16}

theorem cellOffset_eq_ok_iff {offset : Nat} : page.cellOffset pointer = .ok offset ↔
    page.contentFloor ≤ pointer.toNat ∧ pointer.toNat < page.data.size ∧ offset = pointer.toNat := by
  unfold cellOffset
  dsimp only
  split
  · rename_i outside
    simp only [reduceCtorEq, false_iff]
    omega
  · rename_i inside
    simp only [Except.ok.injEq]
    omega

/-- The row that is read at a pointer is the one that stands there. -/
theorem leafCell_eq_ok_iff {row : LeafCell} :
    page.leafCell pointer = .ok row ↔ RowAt page.data page.contentFloor pointer.toNat row := by
  constructor
  · intro read
    obtain ⟨offset, start, read⟩ := Outcomes.ok_of_bind read
    obtain ⟨⟨payloadSize, sizeLength⟩, sized, read⟩ := Outcomes.ok_of_bind read
    obtain ⟨⟨rowId, idLength⟩, numbered, read⟩ := Outcomes.ok_of_bind read
    obtain ⟨floor, -, rfl⟩ := cellOffset_eq_ok_iff.1 start
    obtain ⟨size, wholeSize, heldSize, rfl⟩ := Varint.decode_eq_ok_iff.1 sized
    obtain ⟨id, wholeId, heldId, rfl⟩ := Varint.decodeSigned_eq_ok_iff.1 numbered
    dsimp only at read
    split at read
    · rename_i payload cut
      cases read
      obtain ⟨length, heldPayload⟩ := Bytes.slice?_add_eq_some_iff.1 cut
      refine ⟨length, floor, size, id, wholeSize, wholeId, ?_⟩
      rw [Bytes.holds_append, Bytes.holds_append, Array.size_append, ← Nat.add_assoc]
      exact ⟨⟨heldSize, heldId⟩, heldPayload⟩
    · cases read
  · rintro ⟨length, floor, size, id, wholeSize, wholeId, held⟩
    have inside := held.le_size
    have filled := wholeSize.size_pos
    rw [Array.size_append, Array.size_append] at inside
    rw [Bytes.holds_append, Bytes.holds_append, Array.size_append, ← Nat.add_assoc] at held
    obtain ⟨⟨heldSize, heldId⟩, heldPayload⟩ := held
    have start := (@cellOffset_eq_ok_iff page pointer _).2 ⟨floor, by omega, rfl⟩
    have sized := Varint.decode_eq_ok_iff.2 ⟨size, wholeSize, heldSize, rfl⟩
    have numbered := Varint.decodeSigned_eq_ok_iff.2 ⟨id, wholeId, heldId, rfl⟩
    have cut := Bytes.slice?_add_eq_some_iff.2 ⟨length, heldPayload⟩
    rw [leafCell, start]
    simp only [bind, Except.bind, pure, Except.pure, sized, numbered, cut]

/-- The child that is read at a pointer is the one that stands there. -/
theorem interiorCell_eq_ok_iff {child : InteriorCell} :
    page.interiorCell pointer = .ok child ↔ ChildAt page.data page.contentFloor pointer.toNat child := by
  constructor
  · intro read
    obtain ⟨offset, start, read⟩ := Outcomes.ok_of_bind read
    obtain ⟨floor, -, rfl⟩ := cellOffset_eq_ok_iff.1 start
    split at read
    · cases read
    · rename_i number cut
      obtain ⟨⟨key, used⟩, keyed, read⟩ := Outcomes.ok_of_bind read
      cases read
      obtain ⟨run, whole, held, -⟩ := Varint.decodeSigned_eq_ok_iff.1 keyed
      obtain ⟨wide, there⟩ := Bytes.slice?_add_eq_some_iff.1 cut
      have small := Bytes.natBE_lt number
      rw [wide] at small
      have back := Bytes.ofNatBE_natBE number
      rw [wide] at back
      refine ⟨floor, run, whole, ?_⟩
      rw [UInt32.toNat_ofNat_of_lt' small, back, Bytes.holds_append, wide]
      exact ⟨there, held⟩
  · rintro ⟨floor, run, whole, held⟩
    have inside := held.le_size
    rw [Array.size_append, Bytes.size_ofNatBE] at inside
    rw [Bytes.holds_append, Bytes.size_ofNatBE] at held
    obtain ⟨there, held⟩ := held
    have cut := Bytes.slice?_add_eq_some_iff.2 ⟨Bytes.size_ofNatBE 4 child.leftChild.toNat, there⟩
    have start := (@cellOffset_eq_ok_iff page pointer _).2 ⟨floor, by omega, rfl⟩
    have keyed := Varint.decodeSigned_eq_ok_iff.2 ⟨run, whole, held, rfl⟩
    have number : UInt32.ofNat (Bytes.ofNatBE 4 child.leftChild.toNat).natBE = child.leftChild := by
      rw [Bytes.natBE_ofNatBE_of_lt child.leftChild.toNat_lt, UInt32.ofNat_toNat]
    rw [interiorCell, start]
    simp only [bind, Except.bind, pure, Except.pure, cut, keyed, number]

theorem eq_of_cellOffset_error {error : Error} (failed : page.cellOffset pointer = .error error) :
    ∃ part offset, error = .outOfBounds part offset page.data.size := by
  unfold cellOffset at failed
  dsimp only at failed
  split at failed
  · cases failed
    exact ⟨_, _, rfl⟩
  · cases failed

theorem eq_of_leafCell_error {error : Error} (failed : page.leafCell pointer = .error error) :
    ∃ part offset, error = .outOfBounds part offset page.data.size := by
  obtain failed | ⟨offset, -, failed⟩ := Outcomes.error_of_bind failed
  · exact eq_of_cellOffset_error failed
  obtain failed | ⟨⟨payloadSize, sizeLength⟩, -, failed⟩ := Outcomes.error_of_bind failed
  · exact ⟨_, Varint.eq_of_decode_error failed⟩
  obtain failed | ⟨⟨rowId, idLength⟩, -, failed⟩ := Outcomes.error_of_bind failed
  · exact ⟨_, Varint.eq_of_decodeSigned_error failed⟩
  dsimp only at failed
  split at failed
  · cases failed
  · cases failed
    exact ⟨_, _, rfl⟩

theorem eq_of_interiorCell_error {error : Error} (failed : page.interiorCell pointer = .error error) :
    ∃ part offset, error = .outOfBounds part offset page.data.size := by
  obtain failed | ⟨offset, -, failed⟩ := Outcomes.error_of_bind failed
  · exact eq_of_cellOffset_error failed
  split at failed
  · cases failed
    exact ⟨_, _, rfl⟩
  · obtain failed | ⟨⟨key, used⟩, -, failed⟩ := Outcomes.error_of_bind failed
    · exact ⟨_, Varint.eq_of_decodeSigned_error failed⟩
    · cases failed

end

/-! ## One item for each pointer -/

/-- Each pointer gives one item, in order: the cell that stands where it leads, or, when none does, an error that says
which place in a page of `size` bytes is out of bounds. -/
inductive Accounted {α : Type} (size : Nat) (stands : Nat → α → Prop) : List UInt16 → Partial α → Prop
  | done : Accounted size stands [] ⟨[], []⟩
  | cell {pointer : UInt16} {pointers : List UInt16} {a : α} {behind : Partial α} (there : stands pointer.toNat a)
      (rest : Accounted size stands pointers behind) :
      Accounted size stands (pointer :: pointers) ⟨a :: behind.results, behind.errors⟩
  | outside {pointer : UInt16} {pointers : List UInt16} {behind : Partial α} (part : Part) (place : Nat)
      (nothing : ∀ a, ¬ stands pointer.toNat a) (rest : Accounted size stands pointers behind) :
      Accounted size stands (pointer :: pointers) ⟨behind.results, .outOfBounds part place size :: behind.errors⟩

section
variable {α : Type} {size : Nat} {stands : Nat → α → Prop}

theorem accounted_ofOutcomes {read : UInt16 → Except Error α}
    (reads : ∀ pointer a, read pointer = .ok a ↔ stands pointer.toNat a)
    (bounded : ∀ pointer error, read pointer = .error error → ∃ part place, error = .outOfBounds part place size)
    (pointers : List UInt16) : Accounted size stands pointers (Partial.ofOutcomes (pointers.map read)) := by
  induction pointers with
  | nil => exact .done
  | cons pointer pointers ih =>
    cases outcome : read pointer with
    | ok a =>
      rw [List.map_cons, outcome, Partial.ofOutcomes]
      exact .cell ((reads pointer a).1 outcome) ih
    | error error =>
      obtain ⟨part, place, rfl⟩ := bounded pointer error outcome
      rw [List.map_cons, outcome, Partial.ofOutcomes]
      refine .outside part place (fun a there => ?_) ih
      rw [(reads pointer a).2 there] at outcome
      cases outcome

namespace Accounted
variable {pointers : List UInt16} {cells : Partial α}

theorem length_add (each : Accounted size stands pointers cells) :
    cells.results.length + cells.errors.length = pointers.length := by
  induction each with
  | done => rfl
  | cell there _ ih =>
    simp only [List.length_cons]
    omega
  | outside part place nothing _ ih =>
    simp only [List.length_cons]
    omega

theorem bounded (each : Accounted size stands pointers cells) :
    ∀ error ∈ cells.errors, ∃ part place, error = .outOfBounds part place size := by
  induction each with
  | done => simp
  | cell there _ ih => exact ih
  | outside part place nothing _ ih => exact List.forall_mem_cons.2 ⟨⟨part, place, rfl⟩, ih⟩

end Accounted
end

theorem leafCells_accounted (page : Page) :
    Accounted page.data.size (RowAt page.data page.contentFloor) page.pointers page.leafCells :=
  accounted_ofOutcomes (fun _ _ => leafCell_eq_ok_iff) (fun _ _ => eq_of_leafCell_error) page.pointers

theorem interiorCells_accounted (page : Page) :
    Accounted page.data.size (ChildAt page.data page.contentFloor) page.pointers page.interiorCells :=
  accounted_ofOutcomes (fun _ _ => interiorCell_eq_ok_iff) (fun _ _ => eq_of_interiorCell_error) page.pointers

/-! ## Whole pages -/

/-- The children are those that the cells name and the right-most one behind them, without the zeros. Each zero is an
error of its own. -/
theorem children_accounted (page : Page) :
    page.children.results = (page.interiorCells.results.map InteriorCell.leftChild ++
      page.header.rightMost.toList).filter (· ≠ 0) ∧
    page.children.results.length + page.children.errors.length =
      page.pointers.length + if page.header.rightMost.isSome then 1 else 0 := by
  have each := (interiorCells_accounted page).length_add
  have all : page.named.length = page.interiorCells.results.length + if page.header.rightMost.isSome then 1 else 0 := by
    rw [interiorCells_eq, named, List.length_append, List.length_map]
    cases page.header.rightMost <;> rfl
  have errors : page.interiorCells.errors = Outcomes.failures page.childrenAt := by rw [interiorCells_eq]
  constructor
  · rw [children_eq, interiorCells_eq, named]
  · have split := @List.length_eq_length_filter_add _ page.named (· ≠ 0)
    have zeros : page.named.filter (fun child => !decide (child ≠ 0)) = page.named.filter (· = 0) := by simp
    rw [zeros] at split
    rw [children_eq, ← errors, List.length_append, List.length_map]
    dsimp only
    omega

/-- For each pointer of a page that was read, as a leaf and as an interior page, there is one item: the cell that
stands where it leads, behind the pointers, or an error when none stands there. The children are those of the cells
and the right-most one last; the zeros among them are errors. -/
theorem cells_accounted_for {number : PageNumber} {data : Bytes} {page : Page}
    (read : Page.read number data = .ok page) :
    page.pointers = pointersAt data (pageStart number + page.kind.headerSize) page.header.cellCount.toNat ∧
    page.contentFloor = pageStart number + page.kind.headerSize + page.header.cellCount.toNat * 2 ∧
    (Accounted data.size (RowAt data page.contentFloor) page.pointers page.leafCells ∧
      page.leafCells.results.length + page.leafCells.errors.length = page.header.cellCount.toNat ∧
      ∀ error ∈ page.leafCells.errors, ∃ part place, error = .outOfBounds part place data.size) ∧
    (Accounted data.size (ChildAt data page.contentFloor) page.pointers page.interiorCells ∧
      page.interiorCells.results.length + page.interiorCells.errors.length = page.header.cellCount.toNat ∧
      ∀ error ∈ page.interiorCells.errors, ∃ part place, error = .outOfBounds part place data.size) ∧
    0 ∉ page.children.results ∧
    page.children.results.length + page.children.errors.length =
      page.header.cellCount.toNat + (if page.header.rightMost.isSome then 1 else 0) ∧
    page.children.results = (page.interiorCells.results.map InteriorCell.leftChild ++
      page.header.rightMost.toList).filter (· ≠ 0) := by
  obtain ⟨-, rfl, pointers, floor, -⟩ := layout_of_read read
  have count : page.pointers.length = page.header.cellCount.toNat := by rw [pointers, length_pointersAt]
  have rows := leafCells_accounted page
  have cells := interiorCells_accounted page
  obtain ⟨children, counted⟩ := children_accounted page
  rw [count] at counted
  refine ⟨pointers, floor, ⟨rows, ?_, rows.bounded⟩, ⟨cells, ?_, cells.bounded⟩, ?_, counted, children⟩
  · rw [rows.length_add, count]
  · rw [cells.length_add, count]
  · rw [children]
    simp

/-- An interior page with three pointers: to the child four, to a child zero, and into its own header. The right-most
child is three. -/
def mixedPage : Page where
  number := 2
  header := ⟨.interiorTable, 0, 3, 18, 0, some 3⟩
  pointers := [18, 23, 2]
  data := #[5, 0, 0, 0, 3, 0, 18, 0, 0, 0, 0, 3, 0, 18, 0, 23, 0, 2, 0, 0, 0, 4, 9, 0, 0, 0, 0, 2]

theorem cells_accounted_for_mixed : Page.read 2 mixedPage.data = .ok mixedPage ∧
    mixedPage.leafCells.results.length + mixedPage.leafCells.errors.length = 3 ∧
    mixedPage.interiorCells = ⟨[⟨4, 9⟩, ⟨0, 2⟩], [.outOfBounds (.cellPointer 2) 2 28]⟩ ∧
    mixedPage.children.results = [4, 3] ∧ mixedPage.children.errors.length = 2 := by
  have read : Page.read 2 mixedPage.data = .ok mixedPage := by decide +kernel
  have found : mixedPage.interiorCells = ⟨[⟨4, 9⟩, ⟨0, 2⟩], [.outOfBounds (.cellPointer 2) 2 28]⟩ := by decide +kernel
  obtain ⟨-, -, ⟨-, rows, -⟩, -, -, counted, children⟩ := cells_accounted_for read
  have named : mixedPage.children.results = [4, 3] := by
    rw [children, found]
    rfl
  rw [named] at counted
  have all : 2 + mixedPage.children.errors.length = 4 := counted
  exact ⟨read, rows, found, named, by omega⟩

end SqliteReader.Page
