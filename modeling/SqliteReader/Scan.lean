import SqliteReader.Cursor
import SqliteReader.Record

/-!
# Scanning a table

A scan feeds the rows of a table to a function, from the first to the last. It ends with the first step
that fails; rows that could not be read are passed over and reported at the end.

A scanner is a place in a table, from which records are taken one by one or several at a time. A row
that holds no record gives an error in its place, and the scanner stands behind it.
-/
namespace SqliteReader

/-- The record that a row of a leaf page holds. -/
def Record.ofCell (cell : LeafCell) : Except Error Record := decode cell.rowId cell.payload

/-! ## Whole tables -/

/-- Feeds the rows of the table at `root` to `f`. The result is the last state and the errors of what
was passed over. -/
def foldCells {α : Type} (f : α → LeafCell → Except Error α) (state : α) (root : PageNumber) :
    Reading (α × List Error) := fun pager =>
  let (result, cursor, pager) := (Cursor.new root).fold f state pager
  (result.map fun state => (state, cursor.skipped), pager)

/-- Feeds the records of the table at `root` to `f`. A row that holds no record ends the scan. -/
def foldRecords {α : Type} (f : α → Record → Except Error α) (state : α) (root : PageNumber) :
    Reading (α × List Error) :=
  foldCells (fun state cell => (Record.ofCell cell).bind (f state)) state root

/-- The rows of the table at `root`. -/
def scanTable (root : PageNumber) : Reading (Partial LeafCell) := do
  let (cells, skipped) ← foldCells (fun cells cell => .ok (cell :: cells)) [] root
  return ⟨cells.reverse, skipped⟩

/-! ## Records one by one -/

structure Scanner where
  tableName : String
  cursor : Cursor
  /-- The number of records that were taken since the start. -/
  scanned : Nat
  /-- Whether the end was met since the start. -/
  isExhausted : Bool

namespace Scanner

/-- A scanner at the start of the table at `root`, which goes by the given name. -/
def new (tableName : String) (root : PageNumber) : Scanner := ⟨tableName, .new root, 0, false⟩

def rootPage (scanner : Scanner) : PageNumber := scanner.cursor.root

/-- The next record, or none at the end. Once the end was met no page is asked for any more. -/
def scan (scanner : Scanner) (pager : Pager) : Except Error (Option Record) × Scanner × Pager :=
  if scanner.isExhausted then (.ok none, scanner, pager)
  else
    match scanner.cursor.next pager with
    | (.error error, cursor, pager) => (.error error, { scanner with cursor }, pager)
    | (.ok none, cursor, pager) => (.ok none, { scanner with cursor, isExhausted := true }, pager)
    | (.ok (some cell), cursor, pager) =>
      match Record.ofCell cell with
      | .error error => (.error error, { scanner with cursor }, pager)
      | .ok record =>
        (.ok (some record), { scanner with cursor, scanned := scanner.scanned + 1 }, pager)

/-- The next item of a scanner that is used as an iterator: a record or an error, or none at the end. -/
def next (scanner : Scanner) (pager : Pager) : Option (Except Error Record) × Scanner × Pager :=
  match scanner.scan pager with
  | (.ok (some record), scanner, pager) => (some (.ok record), scanner, pager)
  | (.ok none, scanner, pager) => (none, scanner, pager)
  | (.error error, scanner, pager) => (some (.error error), scanner, pager)

/-- The next items, at most `count` of them. -/
def items (scanner : Scanner) (pager : Pager) : (count : Nat) →
    List (Except Error Record) × Scanner × Pager
  | 0 => ([], scanner, pager)
  | count + 1 =>
    match scanner.next pager with
    | (none, scanner, pager) => ([], scanner, pager)
    | (some item, scanner, pager) =>
      let (rest, scanner, pager) := scanner.items pager count
      (item :: rest, scanner, pager)

/-- Takes records, at most `size` of them. When one cannot be read the others are lost. -/
def take (scanner : Scanner) (pager : Pager) : (size : Nat) →
    Except Error (List Record) × Scanner × Pager
  | 0 => (.ok [], scanner, pager)
  | size + 1 =>
    match scanner.scan pager with
    | (.error error, scanner, pager) => (.error error, scanner, pager)
    | (.ok none, scanner, pager) => (.ok [], scanner, pager)
    | (.ok (some record), scanner, pager) =>
      let (records, scanner, pager) := scanner.take pager size
      (records.map (record :: ·), scanner, pager)

/-- The most bytes that a list may take up. -/
def listRoom : Nat := Nat.pow 2 63 - 1

/-- The bytes that a record takes up in a list, apart from what it refers to. -/
def recordWidth : Nat := 64

/-- The next records, at most `size` of them. A list with room for as many is set up first, even when
fewer are left; the program stops when there can be no such list. -/
def batch (scanner : Scanner) (pager : Pager) (size : Nat) :
    Option (Except Error (List Record) × Scanner × Pager) :=
  if size * recordWidth ≤ listRoom then some (scanner.take pager size) else none

/-- The scanner at the start again. -/
def reset (scanner : Scanner) : Scanner :=
  { scanner with cursor := scanner.cursor.reset, scanned := 0, isExhausted := false }

/-- The errors of what was passed over so far, which are given out once. -/
def takeSkipped (scanner : Scanner) : List Error × Scanner :=
  let (skipped, cursor) := scanner.cursor.takeSkipped
  (skipped, { scanner with cursor })

end Scanner
end SqliteReader
