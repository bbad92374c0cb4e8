import SqliteReader.FileHeader
import SqliteReader.Settings
import Std.Data.HashMap

/-!
# Databases and their pages

A pager reads the pages of a file by number and, when it has a cache, keeps every page that it has read.
A kept page is not read again, also when the file changes under it. An open database is a file whose
header was read, with a pager on its pages.
-/
namespace SqliteReader

/-! ## The pager -/

/-- An open file with its page size and, if pages are kept, those read so far. -/
structure Pager where
  file : Bytes
  pageSize : Nat
  cache : Option (Std.HashMap PageNumber Bytes)

/-- Steps that read pages. A step that fails keeps the pages it has read. -/
abbrev Reading := ExceptT Error (StateM Pager)

namespace Pager

/-- A pager that has read nothing yet. -/
def new (file : Bytes) (pageSize : Nat) (keepPages : Bool) : Pager :=
  ⟨file, pageSize, if keepPages then some ∅ else none⟩

/-- The number of whole pages in the file. -/
def pageCount (pager : Pager) : Nat := pager.file.size / pager.pageSize

/-- The number of pages kept. -/
def cachedPages (pager : Pager) : Nat := (pager.cache.map Std.HashMap.size).getD 0

/-- The page with this number as it stands in the file now. -/
def stored? (pager : Pager) (page : PageNumber) : Option Bytes :=
  let offset := (page.toNat - 1) * pager.pageSize
  pager.file.slice? offset (offset + pager.pageSize)

/-- The page with this number among those kept. -/
def kept? (pager : Pager) (page : PageNumber) : Option Bytes :=
  pager.cache.bind fun cache => cache[page]?

/-- The pager with one more page kept, if it keeps pages. -/
def keep (pager : Pager) (page : PageNumber) (data : Bytes) : Pager :=
  { pager with cache := pager.cache.map fun cache => cache.insert page data }

/-- The page with this number: the kept one or else the one in the file. No page has the number zero. -/
def read (pager : Pager) (page : PageNumber) : Except Error Bytes × Pager :=
  if page = 0 then (.error (.outOfBounds .pageNumber 0 0), pager)
  else match pager.kept? page with
    | some data => (.ok data, pager)
    | none =>
      match pager.stored? page with
      | some data => (.ok data, pager.keep page data)
      | none => (.error .endOfFile, pager)

end Pager

/-! ## Open databases -/

structure Database where
  header : FileHeader
  pager : Pager

namespace Database

/-- The database that a file holds. Its text is UTF-8. -/
def ofFile (file : Bytes) (settings : Settings) : Except Error Database := do
  let header ← FileHeader.ofBytes file
  if header.textEncoding ≠ .utf8 then
    throw (.invalidHeader (.foreignEncoding header.textEncoding))
  return ⟨header, .new file header.pageSize.toNat settings.pageCache⟩

def pageSize (database : Database) : Nat := database.header.pageSize.toNat

/-- Carries out steps that read pages. -/
def run {α : Type} (database : Database) (reading : Reading α) : Except Error α × Database :=
  let (result, pager) := reading.run.run database.pager
  (result, { database with pager })

end Database

end SqliteReader
