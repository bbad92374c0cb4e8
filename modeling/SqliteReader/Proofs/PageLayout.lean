import Mathlib.Algebra.Order.BigOperators.Group.List
import Mathlib.Data.List.Forall2
import SqliteReader.Image
import SqliteReader.Proofs.PageCells

/-!
# Pages laid out and read back

`layOut` puts cells into a page from its end on. When they fit, the page reads back with the same header and
a pointer to each of them, in order (`read_laidOut`), so the rows of a leaf and the children of an interior page
come back (`visit_leafPage`, `visit_interiorPage`).
-/
namespace SqliteReader.Image

/-! ## Where the cells go -/

/-- The bytes that all of the cells take. -/
def total (cells : List Bytes) : Nat := (cells.map Array.size).sum

@[simp] theorem total_nil : total [] = 0 := rfl

@[simp] theorem total_cons (cell : Bytes) (cells : List Bytes) : total (cell :: cells) = cell.size + total cells := by
  rw [total, List.map_cons, List.sum_cons, ← total]

theorem size_le_total {cells : List Bytes} {cell : Bytes} (inside : cell ∈ cells) : cell.size ≤ total cells :=
  List.single_le_sum (fun _ _ => Nat.zero_le _) _ (List.mem_map_of_mem inside)

theorem size_reverse (cells : List Bytes) : (Bytes.concat cells.reverse).size = total cells := by
  rw [Bytes.size_concat, List.map_reverse, List.sum_reverse, total]

/-- Where the cells begin when the first one ends at `stop` and each further one at the start of the last. -/
def starts : (stop : Nat) → List Bytes → List Nat
  | _, [] => []
  | stop, cell :: cells => (stop - cell.size) :: starts (stop - cell.size) cells

@[simp] theorem length_starts (stop : Nat) (cells : List Bytes) : (starts stop cells).length = cells.length := by
  induction cells generalizing stop with
  | nil => rfl
  | cons cell cells ih => simp [starts, ih]

/-- The cells stand in reverse behind the last start. -/
theorem place_of_fits (page : PageNumber) (pageSize floor index : Nat) {stop : Nat} {content : Bytes}
    {cells : List Bytes} (fits : floor + total cells ≤ stop) :
    place page pageSize floor index stop content cells =
      .ok (starts stop cells, stop - total cells, Bytes.concat cells.reverse ++ content) := by
  induction cells generalizing index stop content with
  | nil => simp [place, starts]
  | cons cell cells ih =>
    rw [total_cons] at fits
    have room : ¬ stop < floor + cell.size := by omega
    have rest := @ih (index + 1) (stop - cell.size) (cell ++ content) (by omega)
    rw [place]
    simp only [room, if_false, rest, bind, Except.bind, pure, Except.pure, starts, total_cons, List.reverse_cons,
      Bytes.concat_append, Bytes.concat_cons, Bytes.concat_nil, Array.append_empty, Array.append_assoc, Nat.sub_sub]

theorem fits_of_place {page : PageNumber} {pageSize floor index stop : Nat} {content : Bytes} {cells : List Bytes}
    {placed : List Nat × Nat × Bytes} (done : place page pageSize floor index stop content cells = .ok placed) :
    cells = [] ∨ floor + total cells ≤ stop := by
  induction cells generalizing index stop content placed with
  | nil => exact .inl rfl
  | cons cell cells ih =>
    right
    rw [place] at done
    split at done
    · cases done
    · obtain ⟨rest, more, -⟩ := Outcomes.ok_of_bind done
      rw [total_cons]
      rcases ih more with rfl | fits
      · rw [total_nil]
        omega
      · omega

/-- Cells that stand in reverse behind the last start stand each at its own. -/
theorem forall₂_starts {bytes : Bytes} {stop : Nat} {cells : List Bytes} (fits : total cells ≤ stop)
    (filled : ∀ cell ∈ cells, 0 < cell.size)
    (held : bytes.Holds (stop - total cells) (Bytes.concat cells.reverse)) :
    List.Forall₂ (fun start cell => bytes.Holds start cell ∧ stop - total cells ≤ start ∧ start < stop)
      (starts stop cells) cells := by
  induction cells generalizing stop with
  | nil => exact .nil
  | cons cell cells ih =>
    have positive := filled cell List.mem_cons_self
    rw [total_cons] at fits held
    rw [List.reverse_cons, Bytes.concat_append, Bytes.concat_cons, Bytes.concat_nil, Array.append_empty,
      Bytes.holds_append, size_reverse] at held
    have first : stop - (cell.size + total cells) + total cells = stop - cell.size := by omega
    have last : stop - cell.size - total cells = stop - (cell.size + total cells) := by omega
    have rest := @ih (stop - cell.size) (by omega)
      (fun other inside => filled other (List.mem_cons_of_mem _ inside)) (last ▸ held.1)
    rw [total_cons]
    refine .cons ⟨first ▸ held.2, by omega, by omega⟩ (rest.imp ?_)
    rintro start other ⟨stands, least, most⟩
    exact ⟨stands, by omega, by omega⟩

/-! ## A page and its parts -/

/-- The header of a page of `kind` with so many cells, the last of which begins at `first`. -/
def headBytes (kind : PageKind) (count first : Nat) (rightMost : Option PageNumber) : Bytes :=
  #[kind.tag, 0, 0] ++ Bytes.ofNatBE 2 count ++ Bytes.ofNatBE 2 first ++ #[0] ++
    (rightMost.map fun child => Bytes.ofNatBE 4 child.toNat).getD #[]

/-- The first byte behind the pointers to so many cells. -/
def floorOf (page : PageNumber) (kind : PageKind) (count : Nat) : Nat :=
  pageStart page + kind.headerSize + count * pointerSize

/-- The part of a page behind the file header: the page header, the pointers, free space and the cells. -/
def treeBytes (page : PageNumber) (pageSize : Nat) (kind : PageKind) (cells : List Bytes)
    (rightMost : Option PageNumber) : Bytes :=
  headBytes kind cells.length (pageSize - total cells) rightMost ++
    Bytes.concat ((starts pageSize cells).map (Bytes.ofNatBE pointerSize)) ++
    Bytes.zeros (pageSize - total cells - floorOf page kind cells.length) ++ Bytes.concat cells.reverse

theorem layOut_of_fits {page : PageNumber} {pageSize : Nat} {kind : PageKind} {cells : List Bytes}
    {rightMost : Option PageNumber} (fits : floorOf page kind cells.length + total cells ≤ pageSize) :
    layOut page pageSize kind cells rightMost =
      .ok (Bytes.zeros (pageStart page) ++ treeBytes page pageSize kind cells rightMost) := by
  rw [floorOf] at fits
  rw [layOut]
  simp only [place_of_fits page pageSize _ 0 fits, bind, Except.bind, pure, Except.pure, treeBytes, headBytes, floorOf,
    Array.append_assoc, Array.append_empty]

/-- A layout succeeds only when the cells fit. -/
theorem fits_of_layOut {page : PageNumber} {pageSize : Nat} {kind : PageKind} {cells : List Bytes}
    {rightMost : Option PageNumber} {data : Bytes} (laid : layOut page pageSize kind cells rightMost = .ok data)
    (enough : 512 ≤ pageSize) : floorOf page kind cells.length + total cells ≤ pageSize := by
  obtain ⟨placed, done, -⟩ := Outcomes.ok_of_bind laid
  rcases fits_of_place done with rfl | fits
  · have small : pageStart page + kind.headerSize ≤ 112 :=
      Nat.add_le_add (pageStart_le page) kind.headerSize_bounds.2
    simp only [floorOf, List.length_nil, total_nil]
    omega
  · exact fits

/-- A page that was laid out leaves room for the file header, and has its parts behind it. -/
theorem eq_of_layOut {page : PageNumber} {pageSize : Nat} {kind : PageKind} {cells : List Bytes}
    {rightMost : Option PageNumber} {data : Bytes} (laid : layOut page pageSize kind cells rightMost = .ok data)
    (enough : 512 ≤ pageSize) :
    data = Bytes.zeros (pageStart page) ++ treeBytes page pageSize kind cells rightMost := by
  rw [layOut_of_fits (fits_of_layOut laid enough)] at laid
  exact (Except.ok.inj laid).symm

/-! ## Reading it back -/

theorem ofTag_tag (page : PageNumber) (kind : PageKind) : PageKind.ofTag page kind.tag = .ok kind := by
  cases kind <;> rfl

theorem size_headBytes {kind : PageKind} {rightMost : Option PageNumber} (ends : rightMost.isNone = kind.isLeaf)
    (count first : Nat) : (headBytes kind count first rightMost).size = kind.headerSize := by
  cases rightMost with
  | none =>
    rw [PageKind.headerSize, ← ends]
    simp [headBytes]
  | some child =>
    rw [PageKind.headerSize, ← ends]
    simp [headBytes]

/-- The numbers of a page header stand where they are read. -/
theorem natAt_headBytes (kind : PageKind) (count first : Nat) (rightMost : Option PageNumber) :
    (headBytes kind count first rightMost).natAt 1 2 = 0 ∧
      (headBytes kind count first rightMost).natAt 3 2 = count % 256 ^ 2 ∧
      (headBytes kind count first rightMost).natAt 5 2 = first % 256 ^ 2 ∧
      (headBytes kind count first rightMost).natAt 7 1 = 0 ∧
      ∀ child, rightMost = some child → (headBytes kind count first rightMost).natAt 8 4 = child.toNat := by
  have parts := Bytes.holds_self (headBytes kind count first rightMost)
  rw [headBytes] at parts
  simp only [Bytes.holds_append, Array.size_append, Bytes.size_ofNatBE, List.size_toArray, List.length_cons,
    List.length_nil, Nat.zero_add, Nat.reduceAdd] at parts
  obtain ⟨⟨⟨⟨tag, counted⟩, content⟩, fragments⟩, last⟩ := parts
  rw [← headBytes] at tag counted content fragments last
  have countRead := counted.natAt
  have contentRead := content.natAt
  have fragmentsRead := fragments.natAt
  have freeRead := (Bytes.holds_append.1 (show Bytes.Holds _ 0 (#[kind.tag] ++ #[0, 0]) from tag)).2.natAt
  simp only [Bytes.size_ofNatBE, Bytes.natBE_ofNatBE, List.size_toArray, List.length_cons, List.length_nil,
    Nat.zero_add, Nat.reduceAdd] at countRead contentRead fragmentsRead freeRead
  refine ⟨freeRead, countRead, contentRead, fragmentsRead, ?_⟩
  rintro child rfl
  have read := last.natAt
  simp only [Option.map_some, Option.getD_some, Bytes.size_ofNatBE] at read
  rw [read, Bytes.natBE_ofNatBE_of_lt child.toNat_lt]

theorem readHeader_of_holds {number : PageNumber} {data : Bytes} {kind : PageKind} {count first : Nat}
    {rightMost : Option PageNumber} (ends : rightMost.isNone = kind.isLeaf) (few : count < 65536)
    (positive : 0 < first) (inside : first ≤ 65536)
    (held : data.Holds (pageStart number) (headBytes kind count first rightMost)) :
    PageHeader.read number data = .ok ⟨kind, 0, UInt16.ofNat count, first, 0, rightMost⟩ := by
  have whole : data.slice? (pageStart number) (pageStart number + kind.headerSize) =
      some (headBytes kind count first rightMost) := by
    rw [← size_headBytes ends count first]
    exact held
  have short := (Bytes.holds_append.1 held).1
  rw [Bytes.Holds] at short
  simp only [Array.size_append, Bytes.size_ofNatBE, List.size_toArray, List.length_cons, List.length_nil,
    Nat.zero_add, Nat.reduceAdd] at short
  have tagRead : (#[kind.tag, 0, 0] ++ Bytes.ofNatBE 2 count ++ Bytes.ofNatBE 2 first ++ #[0])[0]?.getD 0 =
      kind.tag := by simp
  obtain ⟨freeRead, countRead, contentRead, fragmentsRead, lastRead⟩ := natAt_headBytes kind count first rightMost
  have childRead : (if kind.isLeaf then none
      else some (UInt32.ofNat ((headBytes kind count first rightMost).natAt 8 4))) = rightMost := by
    cases rightMost with
    | none => rw [← ends]; rfl
    | some child =>
      rw [← ends, lastRead child rfl, UInt32.ofNat_toNat]
      rfl
  have countFits : count % 256 ^ 2 = count := Nat.mod_eq_of_lt (by omega)
  -- The only start that does not fit into two bytes is stored as zero.
  have contentMeant : (if first % 256 ^ 2 = 0 then 65536 else first % 256 ^ 2) = first := by
    split <;> omega
  unfold PageHeader.read
  simp only [short, tagRead, ofTag_tag, bind, Except.bind, pure, Except.pure, whole, countRead, contentRead,
    fragmentsRead, freeRead, childRead, countFits, contentMeant]
  rfl

/-- The page that a layout with the file header `front` before it reads back as. -/
def laidOut (page : PageNumber) (pageSize : Nat) (kind : PageKind) (cells : List Bytes)
    (rightMost : Option PageNumber) (front : Bytes) : Page where
  number := page
  header := ⟨kind, 0, UInt16.ofNat cells.length, pageSize - total cells, 0, rightMost⟩
  pointers := (starts pageSize cells).map UInt16.ofNat
  data := front ++ treeBytes page pageSize kind cells rightMost

section
variable {page : PageNumber} {pageSize : Nat} {kind : PageKind} {cells : List Bytes} {rightMost : Option PageNumber}
  {front : Bytes}

theorem size_pointers (stop : Nat) (cells : List Bytes) :
    (Bytes.concat ((starts stop cells).map (Bytes.ofNatBE pointerSize))).size = cells.length * pointerSize := by
  have sized : ∀ run ∈ (starts stop cells).map (Bytes.ofNatBE pointerSize), run.size = pointerSize := by simp
  rw [Bytes.size_concat_of_size sized, List.length_map, length_starts]

theorem size_treeBytes (ends : rightMost.isNone = kind.isLeaf)
    (fits : floorOf page kind cells.length + total cells ≤ pageSize) :
    (treeBytes page pageSize kind cells rightMost).size + pageStart page = pageSize := by
  simp only [treeBytes, Array.size_append, size_headBytes ends, size_pointers, Bytes.size_zeros, size_reverse]
  simp only [floorOf] at fits ⊢
  omega

/-- The parts of a page stand one behind the other. -/
theorem holds_laidOut (ends : rightMost.isNone = kind.isLeaf)
    (fits : floorOf page kind cells.length + total cells ≤ pageSize) (fronted : front.size = pageStart page) :
    (laidOut page pageSize kind cells rightMost front).data.Holds (pageStart page)
        (headBytes kind cells.length (pageSize - total cells) rightMost) ∧
      (laidOut page pageSize kind cells rightMost front).data.Holds (pageStart page + kind.headerSize)
        (Bytes.concat ((starts pageSize cells).map (Bytes.ofNatBE pointerSize))) ∧
      (laidOut page pageSize kind cells rightMost front).data.Holds (pageSize - total cells)
        (Bytes.concat cells.reverse) := by
  have held := (Bytes.holds_self (treeBytes page pageSize kind cells rightMost)).append_left front
  rw [fronted, Nat.add_zero] at held
  change (laidOut page pageSize kind cells rightMost front).data.Holds _ _ at held
  simp only [treeBytes, Bytes.holds_append, Array.size_append, size_headBytes ends, size_pointers,
    Bytes.size_zeros] at held
  obtain ⟨⟨⟨head, pointers⟩, -⟩, content⟩ := held
  have place : pageStart page + (kind.headerSize + cells.length * pointerSize +
      (pageSize - total cells - floorOf page kind cells.length)) = pageSize - total cells := by
    simp only [floorOf] at fits ⊢
    omega
  exact ⟨head, pointers, place ▸ content⟩

theorem size_laidOut (ends : rightMost.isNone = kind.isLeaf)
    (fits : floorOf page kind cells.length + total cells ≤ pageSize) (fronted : front.size = pageStart page) :
    (laidOut page pageSize kind cells rightMost front).data.size = pageSize := by
  have tree := size_treeBytes ends fits
  rw [laidOut, Array.size_append, fronted]
  omega

theorem pointersAt_of_holds {data : Bytes} {offset : Nat} {starts : List Nat}
    (held : data.Holds offset (Bytes.concat (starts.map (Bytes.ofNatBE pointerSize)))) :
    Page.pointersAt data offset starts.length = starts.map UInt16.ofNat := by
  apply List.ext_getElem (by simp [Page.pointersAt])
  intro i _ below
  rw [List.length_map] at below
  have sized : ∀ run ∈ starts.map (Bytes.ofNatBE pointerSize), run.size = pointerSize := by simp
  have stands := held.getElem?_concat sized (i := i)
    (by rw [List.getElem?_map, List.getElem?_eq_getElem below]; rfl)
  have read := stands.natAt
  rw [Bytes.size_ofNatBE, Bytes.natBE_ofNatBE] at read
  simp only [Page.pointersAt, List.getElem_map, List.getElem_range, read]
  apply UInt16.toNat_inj.1
  simp [pointerSize]

/-- There are never more pointers than two bytes count. -/
theorem length_lt (fits : floorOf page kind cells.length + total cells ≤ pageSize) (most : pageSize ≤ 65536) :
    cells.length < 65536 := by
  have header := kind.headerSize_bounds.1
  simp only [floorOf, pointerSize] at fits
  omega

/-- What was laid out reads back, with a pointer to each cell. -/
theorem read_laidOut (ends : rightMost.isNone = kind.isLeaf)
    (fits : floorOf page kind cells.length + total cells ≤ pageSize) (most : pageSize ≤ 65536)
    (fronted : front.size = pageStart page) :
    Page.read page (laidOut page pageSize kind cells rightMost front).data =
      .ok (laidOut page pageSize kind cells rightMost front) := by
  obtain ⟨head, pointers, -⟩ := holds_laidOut ends fits fronted
  have size := size_laidOut ends fits fronted
  have few := length_lt fits most
  have floor : pageStart page + kind.headerSize + cells.length * pointerSize ≤ pageSize - total cells := by
    simp only [floorOf] at fits
    omega
  have least := kind.headerSize_bounds.1
  have header := readHeader_of_holds ends few (by omega) (by omega) head
  have count : (UInt16.ofNat cells.length).toNat = cells.length := UInt16.toNat_ofNat_of_lt' few
  have pointersRead := pointersAt_of_holds pointers
  rw [length_starts] at pointersRead
  rw [Page.read, header]
  simp only [bind, Except.bind, PageHeader.size, count, size, pointersRead]
  rw [if_neg (by omega)]
  rfl

/-- Each pointer leads to its cell. -/
theorem pointers_laidOut (ends : rightMost.isNone = kind.isLeaf)
    (fits : floorOf page kind cells.length + total cells ≤ pageSize) (most : pageSize ≤ 65536)
    (fronted : front.size = pageStart page) (filled : ∀ cell ∈ cells, 0 < cell.size) :
    List.Forall₂ (fun pointer cell =>
        (laidOut page pageSize kind cells rightMost front).contentFloor ≤ pointer.toNat ∧
          (laidOut page pageSize kind cells rightMost front).data.Holds pointer.toNat cell)
      (laidOut page pageSize kind cells rightMost front).pointers cells := by
  obtain ⟨-, -, content⟩ := holds_laidOut ends fits fronted
  have few := length_lt fits most
  have count : (UInt16.ofNat cells.length).toNat = cells.length := UInt16.toNat_ofNat_of_lt' few
  have stand := forall₂_starts (by omega) filled content
  refine List.forall₂_map_left_iff.2 (stand.imp ?_)
  rintro start cell ⟨stands, least, below⟩
  have pointer : (UInt16.ofNat start).toNat = start := UInt16.toNat_ofNat_of_lt' (show _ < 2 ^ 16 by omega)
  have floor : (laidOut page pageSize kind cells rightMost front).contentFloor = floorOf page kind cells.length := by
    simp [Page.contentFloor, laidOut, PageHeader.size, floorOf]
  rw [floor, pointer]
  exact ⟨by omega, stands⟩

theorem size_of_layOut {data : Bytes} (laid : layOut page pageSize kind cells rightMost = .ok data)
    (ends : rightMost.isNone = kind.isLeaf) (enough : 512 ≤ pageSize) : data.size = pageSize := by
  rw [eq_of_layOut laid enough]
  exact size_laidOut ends (fits_of_layOut laid enough) (Bytes.size_zeros _)

end

/-! ## Rows and children -/

theorem size_leafPage {page : PageNumber} {pageSize : Nat} {rows : List (RowId × Bytes)} {data : Bytes}
    (laid : leafPage page pageSize rows = .ok data) (enough : 512 ≤ pageSize) : data.size = pageSize :=
  size_of_layOut laid rfl enough

theorem zeros_of_leafPage {page : PageNumber} {pageSize : Nat} {rows : List (RowId × Bytes)} {data : Bytes}
    (laid : leafPage page pageSize rows = .ok data) (enough : 512 ≤ pageSize) :
    ∃ body, data = Bytes.zeros (pageStart page) ++ body :=
  ⟨_, eq_of_layOut laid enough⟩

/-- An interior page is laid out with its last child as the right-most one. -/
theorem layOut_of_interiorPage {page : PageNumber} {pageSize : Nat} {children : List (PageNumber × RowId)}
    {data : Bytes} (laid : interiorPage page pageSize children = .ok data) :
    ∃ last, children.getLast? = some last ∧
      layOut page pageSize .interiorTable (children.dropLast.map fun child => interiorCell child.1 child.2)
        (some last.1) = .ok data := by
  unfold interiorPage at laid
  split at laid
  · cases laid
  · rename_i last isLast
    exact ⟨last, isLast, laid⟩

theorem zeros_of_interiorPage {page : PageNumber} {pageSize : Nat} {children : List (PageNumber × RowId)}
    {data : Bytes} (laid : interiorPage page pageSize children = .ok data) (enough : 512 ≤ pageSize) :
    ∃ body, data = Bytes.zeros (pageStart page) ++ body := by
  obtain ⟨last, -, laid⟩ := layOut_of_interiorPage laid
  exact ⟨_, eq_of_layOut laid enough⟩

theorem size_interiorPage {page : PageNumber} {pageSize : Nat} {children : List (PageNumber × RowId)} {data : Bytes}
    (laid : interiorPage page pageSize children = .ok data) (enough : 512 ≤ pageSize) : data.size = pageSize := by
  obtain ⟨last, -, laid⟩ := layOut_of_interiorPage laid
  exact size_of_layOut laid rfl enough

/-- No row of a leaf page is larger than the page. -/
theorem size_le_of_leafPage {page : PageNumber} {pageSize : Nat} {rows : List (RowId × Bytes)} {data : Bytes}
    (laid : leafPage page pageSize rows = .ok data) (enough : 512 ≤ pageSize) {row : RowId × Bytes}
    (inside : row ∈ rows) : row.2.size ≤ pageSize := by
  have fits := fits_of_layOut laid enough
  have cell := size_le_total (List.mem_map_of_mem (f := fun row => leafCell row.1 row.2) inside)
  have payload : row.2.size ≤ (leafCell row.1 row.2).size := by
    rw [leafCell, Array.size_append]
    exact Nat.le_add_left _ _
  exact Nat.le_trans payload (Nat.le_trans cell (Nat.le_of_add_left_le fits))

/-- A row as a leaf page gives it back. -/
def storedCell (row : RowId × Bytes) : LeafCell := ⟨row.1, UInt64.ofNat row.2.size, row.2⟩

theorem size_leafCell_pos (rowId : RowId) (payload : Bytes) : 0 < (leafCell rowId payload).size := by
  have positive := Varint.size_encode_pos (UInt64.ofNat payload.size)
  simp only [leafCell, Array.size_append]
  omega

/-- A row that was written is the row that stands there. -/
theorem rowAt_of_holds {data : Bytes} {floor offset : Nat} {row : RowId × Bytes} (least : floor ≤ offset)
    (held : data.Holds offset (leafCell row.1 row.2)) (small : row.2.size < 2 ^ 64) :
    Page.RowAt data floor offset (storedCell row) :=
  ⟨(UInt64.toNat_ofNat_of_lt' small).symm, least, _, _, Varint.whole_encode _, Varint.whole_encode _, held⟩

/-- A child that was written is the child that stands there. -/
theorem childAt_of_holds {data : Bytes} {floor offset : Nat} {child : PageNumber × RowId} (least : floor ≤ offset)
    (held : data.Holds offset (interiorCell child.1 child.2)) : Page.ChildAt data floor offset ⟨child.1, child.2⟩ :=
  ⟨least, _, Varint.whole_encode _, held⟩

section
variable {page : PageNumber} {pageSize : Nat} {front : Bytes}

theorem rowsAt_laidOut {rows : List (RowId × Bytes)}
    (fits : floorOf page .leafTable (rows.map fun row => leafCell row.1 row.2).length +
      total (rows.map fun row => leafCell row.1 row.2) ≤ pageSize)
    (most : pageSize ≤ 65536) (fronted : front.size = pageStart page) :
    (laidOut page pageSize .leafTable (rows.map fun row => leafCell row.1 row.2) none front).rowsAt =
      (rows.map storedCell).map .ok := by
  have size := @size_laidOut page pageSize .leafTable _ none front rfl fits fronted
  have filled (cell : Bytes) (inside : cell ∈ rows.map fun row => leafCell row.1 row.2) : 0 < cell.size := by
    obtain ⟨row, -, rfl⟩ := List.mem_map.1 inside
    exact size_leafCell_pos _ _
  have pointers := @pointers_laidOut page pageSize .leafTable _ none front rfl fits most fronted filled
  generalize laidOut page pageSize .leafTable _ none front = laid at *
  rw [List.map_map, Page.rowsAt, ← List.forall₂_eq_eq_eq, List.forall₂_map_left_iff, List.forall₂_map_right_iff]
  refine (List.forall₂_map_right_iff.1 pointers).imp ?_
  rintro pointer row ⟨behind, held⟩
  have inside := held.le_size
  simp only [leafCell, Array.size_append] at inside
  exact Page.leafCell_eq_ok_iff.2 (rowAt_of_holds behind held (by omega))

/-- The rows of a leaf page are read back, whatever file header stands before them. -/
theorem visit_leafPage {rows : List (RowId × Bytes)} {body : Bytes}
    (laid : leafPage page pageSize rows = .ok (Bytes.zeros (pageStart page) ++ body)) (enough : 512 ≤ pageSize)
    (most : pageSize ≤ 65536) (fronted : front.size = pageStart page) {load : PageNumber → Except Error Bytes}
    (loaded : load page = .ok (front ++ body)) :
    (Visit.of load page).below = [] ∧ (Visit.of load page).outcomes = (rows.map storedCell).map .ok ∧
      (Visit.of load page).skipped = [] := by
  have fits := fits_of_layOut laid enough
  rw [(Array.append_right_inj _).1 (eq_of_layOut laid enough)] at loaded
  have read := @read_laidOut page pageSize .leafTable _ none front rfl fits most fronted
  have rowsRead := rowsAt_laidOut fits most fronted
  have kind : (laidOut page pageSize .leafTable (rows.map fun row => leafCell row.1 row.2) none front).kind =
    .leafTable := rfl
  change load page = .ok (laidOut _ _ _ _ _ front).data at loaded
  generalize laidOut page pageSize .leafTable _ none front = laid at *
  have met : Visit.of load page = .leaf laid := by
    simp only [Visit.of, loaded, Except.bind, read, kind]
  rw [met]
  refine ⟨rfl, ?_, ?_⟩
  · simp only [Visit.outcomes, Visit.rows, rowsRead, Outcomes.results_map_ok]
  · simp only [Visit.skipped, rowsRead, Outcomes.failures_map_ok]

theorem childrenAt_laidOut {children : List (PageNumber × RowId)} {last : PageNumber}
    (fits : floorOf page .interiorTable (children.map fun child => interiorCell child.1 child.2).length +
      total (children.map fun child => interiorCell child.1 child.2) ≤ pageSize)
    (most : pageSize ≤ 65536) (fronted : front.size = pageStart page) :
    (laidOut page pageSize .interiorTable (children.map fun child => interiorCell child.1 child.2) (some last)
        front).childrenAt = (children.map fun child => (⟨child.1, child.2⟩ : InteriorCell)).map .ok := by
  have filled (cell : Bytes) (inside : cell ∈ children.map fun child => interiorCell child.1 child.2) :
      0 < cell.size := by
    obtain ⟨child, -, rfl⟩ := List.mem_map.1 inside
    simp only [interiorCell, Array.size_append, Bytes.size_ofNatBE]
    omega
  have pointers := @pointers_laidOut page pageSize .interiorTable _ (some last) front rfl fits most fronted filled
  generalize laidOut page pageSize .interiorTable _ (some last) front = laid at *
  rw [List.map_map, Page.childrenAt, ← List.forall₂_eq_eq_eq, List.forall₂_map_left_iff, List.forall₂_map_right_iff]
  refine (List.forall₂_map_right_iff.1 pointers).imp ?_
  rintro pointer child ⟨behind, held⟩
  exact Page.interiorCell_eq_ok_iff.2 (childAt_of_holds behind held)

/-- The children of an interior page are read back from left to right. -/
theorem visit_interiorPage {children : List (PageNumber × RowId)} {body : Bytes}
    (laid : interiorPage page pageSize children = .ok (Bytes.zeros (pageStart page) ++ body))
    (enough : 512 ≤ pageSize) (most : pageSize ≤ 65536) (numbered : ∀ child ∈ children, child.1 ≠ 0)
    (fronted : front.size = pageStart page) {load : PageNumber → Except Error Bytes}
    (loaded : load page = .ok (front ++ body)) :
    (Visit.of load page).below = children.map Prod.fst ∧ (Visit.of load page).outcomes = [] ∧
      (Visit.of load page).skipped = [] := by
  obtain ⟨last, isLast, laid⟩ := layOut_of_interiorPage laid
  have fits := fits_of_layOut laid enough
  rw [(Array.append_right_inj _).1 (eq_of_layOut laid enough)] at loaded
  have read := @read_laidOut page pageSize .interiorTable _ (some last.1) front rfl fits most fronted
  have childrenRead := @childrenAt_laidOut page pageSize front _ last.1 fits most fronted
  have kind : (laidOut page pageSize .interiorTable (children.dropLast.map fun child => interiorCell child.1 child.2)
    (some last.1) front).kind = .interiorTable := rfl
  have rightMost : (laidOut page pageSize .interiorTable
    (children.dropLast.map fun child => interiorCell child.1 child.2) (some last.1) front).header.rightMost =
      some last.1 := rfl
  change load page = .ok (laidOut _ _ _ _ _ front).data at loaded
  generalize laidOut page pageSize .interiorTable _ (some last.1) front = laid at *
  have named : laid.named = children.map Prod.fst := by
    rw [Page.named, childrenRead, Outcomes.results_map_ok, rightMost, List.map_map]
    conv_rhs => rw [← List.dropLast_append_getLast? last isLast, List.map_append]
    rfl
  have nonzero (number : PageNumber) (inside : number ∈ laid.named) : number ≠ 0 := by
    rw [named] at inside
    obtain ⟨child, among, rfl⟩ := List.mem_map.1 inside
    exact numbered child among
  have met : Visit.of load page = .interior laid := by
    simp only [Visit.of, loaded, Except.bind, read, kind]
  rw [met]
  refine ⟨?_, rfl, ?_⟩
  · rw [Visit.below, ← named, List.filter_eq_self]
    intro number inside
    simpa using nonzero number inside
  · rw [Visit.skipped, childrenRead, Outcomes.failures_map_ok, List.nil_append, List.map_eq_nil_iff,
      List.filter_eq_nil_iff]
    intro number inside
    simpa using nonzero number inside

end

end SqliteReader.Image
