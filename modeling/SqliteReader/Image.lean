import SqliteReader.Catalog
import SqliteReader.FileHeader
import SqliteReader.Page
import SqliteReader.Schema

/-!
# File images

An image describes a small database file: its tables with their rows, further catalog entries, and
bytes to overwrite at the end. Page one holds the catalog as a single leaf. Each table gets a leaf as
its root or, when its rows are split, an interior root with the leaves behind it; pages are numbered in
the order of the tables.

A page is laid out in the other direction of reading it: cells are put one before the other at the end
of the page, and the pointers to them behind its header, in the given order.
-/
namespace SqliteReader

/-! ## Laying out pages -/

namespace Image

/-- Where the cells go that have to lie between `floor` and `stop`, with the index of the first one.
Gives the offset of each cell, the start of the last one, and the bytes from there to the first `stop`. -/
def place (page : PageNumber) (pageSize floor : Nat) :
    (index stop : Nat) → (content : Bytes) → List Bytes → Except Error (List Nat × Nat × Bytes)
  | _, stop, content, [] => .ok ([], stop, content)
  | index, stop, content, cell :: cells => do
    if stop < floor + cell.size then throw (.outOfBounds (.cell index page) stop pageSize)
    let start := stop - cell.size
    let (starts, first, content) ←
      place page pageSize floor (index + 1) start (cell ++ content) cells
    return (start :: starts, first, content)

/-- A page of `pageSize` bytes with these cells, and the right-most child of an interior page. -/
def layOut (page : PageNumber) (pageSize : Nat) (kind : PageKind) (cells : List Bytes)
    (rightMost : Option PageNumber) : Except Error Bytes := do
  let start := pageStart page
  let floor := start + kind.headerSize + cells.length * pointerSize
  let (starts, first, content) ← place page pageSize floor 0 pageSize #[] cells
  let pointers := Bytes.concat (starts.map (Bytes.ofNatBE pointerSize))
  let child := (rightMost.map fun child => Bytes.ofNatBE 4 child.toNat).getD #[]
  return Bytes.zeros start ++ #[kind.tag, 0, 0] ++ Bytes.ofNatBE 2 cells.length ++
    Bytes.ofNatBE 2 first ++ #[0] ++ child ++ pointers ++ Bytes.zeros (first - floor) ++ content

/-- A row as a leaf page holds it. -/
def leafCell (rowId : RowId) (payload : Bytes) : Bytes :=
  Varint.encode (UInt64.ofNat payload.size) ++ Varint.encode rowId.toUInt64 ++ payload

/-- A child and its key as an interior page holds them. -/
def interiorCell (child : PageNumber) (key : RowId) : Bytes :=
  Bytes.ofNatBE 4 child.toNat ++ Varint.encode key.toUInt64

/-- A leaf page of a table with these rows. -/
def leafPage (page : PageNumber) (pageSize : Nat) (rows : List (RowId × Bytes)) :
    Except Error Bytes :=
  layOut page pageSize .leafTable (rows.map fun row => leafCell row.1 row.2) none

/-- An interior page of a table with these children: the last one goes into the header, the others
become cells. -/
def interiorPage (page : PageNumber) (pageSize : Nat) (children : List (PageNumber × RowId)) :
    Except Error Bytes :=
  match children.getLast? with
  | none => .error (.corruptedPage page .noChildren)
  | some last =>
    layOut page pageSize .interiorTable
      (children.dropLast.map fun child => interiorCell child.1 child.2) (some last.1)

end Image

/-! ## Images -/

/-- A table of an image, with its rows as payloads. -/
structure ImageTable where
  name : String
  sql : String
  rows : List (RowId × Bytes)
  deriving Repr, DecidableEq

/-- Bytes that replace others once all pages are laid out. -/
structure Patch where
  page : PageNumber
  /-- Distance from the start of the page, which may reach into later pages. -/
  offset : Nat
  bytes : Bytes
  deriving Repr, DecidableEq

structure Image where
  header : FileHeader
  tables : List ImageTable
  /-- Catalog rows behind those of the tables, which own no pages. -/
  entries : List Entry
  /-- Tables with more rows than this are split over several leaves. -/
  rowsPerLeaf : Option Nat
  patches : List Patch
  deriving Repr, DecidableEq

/-- `items` cut into runs of `count`, the last of which may be shorter. A count of zero counts as one. -/
def chunks {α : Type} (count : Nat) (items : List α) : List (List α) :=
  match items with
  | [] => []
  | first :: rest =>
    (first :: rest.take (count - 1)) :: chunks count (rest.drop (count - 1))
termination_by items.length
decreasing_by simp only [List.length_drop, List.length_cons]; omega

namespace ImageTable

def ofValues (name sql : String) (rows : List (RowId × List Value)) : ImageTable :=
  ⟨name, sql, rows.map fun row => (row.1, Record.encode row.2)⟩

/-- A table whose rows have these values and the ids one, two, three, and so on. -/
def ofRows (name sql : String) (rows : List (List Value)) : ImageTable :=
  ofValues name sql (rows.zipIdx.map fun row => (Int64.ofNat (row.2 + 1), row.1))

end ImageTable

namespace Image

def empty : Image := ⟨FileHeader.initial, [], [], none, []⟩

/-- The number of rows that a leaf of `table` takes, at least one. -/
def leafRows (image : Image) (table : ImageTable) : Nat :=
  max 1 (image.rowsPerLeaf.getD table.rows.length)

/-- The rows of each leaf of `table`, when they are split. -/
def leaves (image : Image) (table : ImageTable) : List (List (RowId × Bytes)) :=
  chunks (image.leafRows table) table.rows

/-- The number of pages that are set apart for `table`: a leaf, or a root and as many leaves as its rows need. -/
def pagesOf (image : Image) (table : ImageTable) : Nat :=
  let leaves := max 1 ((table.rows.length + image.leafRows table - 1) / image.leafRows table)
  if 1 < leaves then leaves + 1 else 1

/-- The root pages of `tables` when the first one has the number `next`. -/
def rootsFrom (image : Image) (next : Nat) : List ImageTable → List PageNumber
  | [] => []
  | table :: tables => UInt32.ofNat next :: image.rootsFrom (next + image.pagesOf table) tables

/-- The tables with their root pages. -/
def placed (image : Image) : List (ImageTable × PageNumber) :=
  image.tables.zip (image.rootsFrom (catalogRoot.toNat + 1) image.tables)

def rootPages (image : Image) : List (String × PageNumber) :=
  image.placed.map fun (table, root) => (table.name, root)

/-- The entries of the catalog: one for each table, then the others. -/
def catalogEntries (image : Image) : List Entry :=
  (image.placed.map fun (table, root) => ⟨.table, table.name, table.name, root, some table.sql⟩) ++
    image.entries

def catalogTable (image : Image) : ImageTable :=
  .ofRows "" "" (image.catalogEntries.map Entry.toValues)

/-- The pages of a table: its root and, if its rows are split, its leaves. -/
def tablePages (image : Image) (pageSize : Nat) (table : ImageTable) (root : PageNumber) :
    Except Error (List Bytes) := do
  if table.rows.length ≤ image.leafRows table then
    return [← leafPage root pageSize table.rows]
  let leaves := (image.leaves table).zipIdx.map fun (rows, index) =>
    (UInt32.ofNat (root.toNat + 1 + index), rows)
  let rootPage ← interiorPage root pageSize
    (leaves.map fun (page, rows) => (page, (rows.getLast?.map Prod.fst).getD 0))
  let leafPages ← leaves.mapM fun (page, rows) => leafPage page pageSize rows
  return rootPage :: leafPages

/-- `file` with one patch applied. -/
def applyPatch (pageSize : Nat) (file : Bytes) (patch : Patch) : Except Error Bytes := do
  if patch.page = 0 then throw (.outOfBounds .patchPage 0 (file.size / pageSize))
  let start := (patch.page.toNat - 1) * pageSize + patch.offset
  if file.size < start + patch.bytes.size then throw (.outOfBounds .patch start file.size)
  return file.overwrite start patch.bytes

/-- The file that an image describes. -/
def bytes (image : Image) : Except Error Bytes := do
  let pageSize := image.header.pageSize.toNat
  let catalogPage ← leafPage catalogRoot pageSize image.catalogTable.rows
  let tablePages ← image.placed.mapM fun (table, root) => image.tablePages pageSize table root
  let pages := catalogPage :: tablePages.flatten
  let header := { image.header with pageCount := UInt32.ofNat pages.length }
  let file := (Bytes.concat pages).overwrite 0 header.toBytes
  image.patches.foldlM (applyPatch pageSize) file

end Image
end SqliteReader
