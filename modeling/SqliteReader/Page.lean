import SqliteReader.Error
import SqliteReader.Results
import SqliteReader.Varint

/-!
# Pages

A page of a b-tree: a header, an array of pointers, and the cells that the pointers lead to. Each
pointer stands on its own, so a cell that cannot be read leaves the others as they are.

    start            + headerSize        contentFloor                             data.size
    | kind, counts ... | pointer | pointer | free space | cell | ... | cell |

Pointers count from the first byte of the page, also on page one.
-/
namespace SqliteReader

/-- Where the b-tree part of a page begins: page one starts with the file header. -/
def pageStart (page : PageNumber) : Nat := if page = 1 then 100 else 0

theorem pageStart_le (page : PageNumber) : pageStart page ≤ 100 := by
  unfold pageStart
  split <;> decide

/-- The bytes that one cell pointer takes. -/
def pointerSize : Nat := 2

/-- What a page is in its b-tree. -/
inductive PageKind
  | interiorIndex
  | interiorTable
  | leafIndex
  | leafTable
  deriving Repr, DecidableEq

namespace PageKind

/-- The byte that names a kind. -/
def tag : PageKind → UInt8
  | interiorIndex => 2
  | interiorTable => 5
  | leafIndex => 10
  | leafTable => 13

/-- The kind that a byte names. -/
def ofTag? (tag : UInt8) : Option PageKind :=
  if tag = 2 then some interiorIndex
  else if tag = 5 then some interiorTable
  else if tag = 10 then some leafIndex
  else if tag = 13 then some leafTable
  else none

/-- The kind of page `page` when its first byte is `tag`. -/
def ofTag (page : PageNumber) (tag : UInt8) : Except Error PageKind :=
  match ofTag? tag with
  | some kind => .ok kind
  | none => .error (.invalidPageType page tag)

/-- Whether the page holds rows or keys and no children. -/
def isLeaf : PageKind → Bool
  | leafIndex | leafTable => true
  | interiorIndex | interiorTable => false

/-- The bytes of the page header, which on an interior page ends with the right-most child. -/
def headerSize (kind : PageKind) : Nat := if kind.isLeaf then 8 else 12

theorem headerSize_bounds (kind : PageKind) : 8 ≤ kind.headerSize ∧ kind.headerSize ≤ 12 := by
  cases kind <;> decide

def name : PageKind → String
  | interiorIndex => "InteriorIndex"
  | interiorTable => "InteriorTable"
  | leafIndex => "LeafIndex"
  | leafTable => "LeafTable"

end PageKind

/-- The header of a b-tree page. -/
structure PageHeader where
  kind : PageKind
  firstFreeblock : UInt16
  cellCount : UInt16
  /-- Where the cells begin; stored as zero when it is 65536. -/
  contentStart : Nat
  fragmentedBytes : UInt8
  /-- The child behind the last cell of an interior page. -/
  rightMost : Option PageNumber
  deriving Repr, DecidableEq

/-- One row of a table, as a leaf page holds it. -/
structure LeafCell where
  rowId : RowId
  payloadSize : UInt64
  payload : Bytes
  deriving Repr, DecidableEq

/-- A child of an interior page; no row id below it is greater than the key. -/
structure InteriorCell where
  leftChild : PageNumber
  key : RowId
  deriving Repr, DecidableEq

/-- A page of a b-tree with its header and pointers read. -/
structure Page where
  number : PageNumber
  header : PageHeader
  pointers : List UInt16
  data : Bytes
  deriving Repr, DecidableEq

namespace PageHeader

/-- The header of page `page`, whose bytes are `data`. -/
def read (page : PageNumber) (data : Bytes) : Except Error PageHeader := do
  let start := pageStart page
  let outside : Error := .outOfBounds .pageHeader start data.size
  let some head := data.slice? start (start + 8) | throw outside
  let kind ← PageKind.ofTag page (head[0]?.getD 0)
  let some head := data.slice? start (start + kind.headerSize) | throw outside
  let contentStart := head.natAt 5 2
  return {
    kind
    firstFreeblock := UInt16.ofNat (head.natAt 1 2)
    cellCount := UInt16.ofNat (head.natAt 3 2)
    contentStart := if contentStart = 0 then 65536 else contentStart
    fragmentedBytes := UInt8.ofNat (head.natAt 7 1)
    rightMost := if kind.isLeaf then none else some (UInt32.ofNat (head.natAt 8 4)) }

/-- The number of bytes that the header takes. -/
def size (header : PageHeader) : Nat := header.kind.headerSize

end PageHeader

namespace Page

/-- The `count` pointers written from `offset` on. -/
def pointersAt (data : Bytes) (offset count : Nat) : List UInt16 :=
  (List.range count).map fun i => UInt16.ofNat (data.natAt (offset + i * pointerSize) pointerSize)

/-- Page `number`, whose bytes are `data`. -/
def read (number : PageNumber) (data : Bytes) : Except Error Page := do
  let header ← PageHeader.read number data
  let first := pageStart number + header.size
  let count := header.cellCount.toNat
  if data.size < first + count * pointerSize then
    throw (.corruptedPage number (.tooManyPointers count data.size))
  return ⟨number, header, pointersAt data first count, data⟩

def kind (page : Page) : PageKind := page.header.kind

/-- The first byte behind the pointers, before which no cell can start. -/
def contentFloor (page : Page) : Nat :=
  pageStart page.number + page.header.size + page.pointers.length * pointerSize

/-- The offset that a pointer gives, if a cell can start there. -/
def cellOffset (page : Page) (pointer : UInt16) : Except Error Nat :=
  let offset := pointer.toNat
  if offset < page.contentFloor ∨ page.data.size ≤ offset then
    .error (.outOfBounds (.cellPointer page.number) offset page.data.size)
  else .ok offset

/-- The row at a pointer: the length of its payload, its row id, and the payload. -/
def leafCell (page : Page) (pointer : UInt16) : Except Error LeafCell := do
  let offset ← page.cellOffset pointer
  let (payloadSize, sizeLength) ← Varint.decode page.data offset
  let (rowId, idLength) ← Varint.decodeSigned page.data (offset + sizeLength)
  let start := offset + sizeLength + idLength
  match page.data.slice? start (start + payloadSize.toNat) with
  | some payload => return ⟨rowId, payloadSize, payload⟩
  | none => throw (.outOfBounds (.payload rowId page.number) start page.data.size)

/-- The child at a pointer: its page number in four bytes, and its key. -/
def interiorCell (page : Page) (pointer : UInt16) : Except Error InteriorCell := do
  let offset ← page.cellOffset pointer
  match page.data.slice? offset (offset + 4) with
  | none => throw (.outOfBounds .childPointer offset page.data.size)
  | some child =>
    let (key, _) ← Varint.decodeSigned page.data (offset + 4)
    return ⟨UInt32.ofNat child.natBE, key⟩

/-- The rows of a leaf page, in the order of the pointers. -/
def leafCells (page : Page) : Partial LeafCell :=
  Partial.ofOutcomes (page.pointers.map page.leafCell)

/-- The dividing cells of an interior page, in the order of the pointers. -/
def interiorCells (page : Page) : Partial InteriorCell :=
  Partial.ofOutcomes (page.pointers.map page.interiorCell)

/-- The children of an interior page from left to right, the right-most one last. No page has the
number zero. -/
def children (page : Page) : Partial PageNumber :=
  let cells := page.interiorCells
  let (valid, invalid) :=
    (cells.results.map InteriorCell.leftChild ++ page.header.rightMost.toList).partition (· ≠ 0)
  ⟨valid, cells.errors ++ invalid.map fun _ => .corruptedPage page.number .noChild⟩

end Page
end SqliteReader
