import SqliteReader.Proofs.Catalog
import SqliteReader.Proofs.History
import SqliteReader.Proofs.PageLayout
import SqliteReader.Proofs.PagesRead
import SqliteReader.Proofs.Trees

/-!
# Answers and the bytes they rest on

The answer to a question rests on the pages that it reads. A file that was cut short gives it or fails to be read,
but it never passes for a smaller one, and bytes outside the catalog and the trees of the tables asked about do not
matter (`answer_from_pages_read`).
-/
namespace SqliteReader
open Reading

namespace Answer

/-- The error that an answer is, if it is one. -/
def error? : Answer → Option Error
  | page data => Outcomes.failure? data
  | entries read => Outcomes.failure? read
  | table found => Outcomes.failure? found
  | schema found => Outcomes.failure? found
  | tableNames names => Outcomes.failure? names
  | rows read => Outcomes.failure? read
  | result read => Outcomes.failure? read
  | text shown => Outcomes.failure? shown
  | row given => Outcomes.failure? given
  | skipped _ | done | noCursor => none

/-- The answer is that the file could not be read. -/
def IsIo (answer : Answer) : Prop := ∃ error, answer.error? = some error ∧ error.kind = .io

end Answer

/-- A page of a file that was cut short is a page of the whole file. -/
theorem pageOf_of_cut {file : Bytes} {pageSize size : Nat} {page : PageNumber} {data : Bytes}
    (loaded : pageOf (file.extract 0 size) pageSize page = .ok data) : pageOf file pageSize page = .ok data := by
  obtain ⟨positive, inside, rfl⟩ := pageOf_eq_ok_iff.1 loaded
  rw [Array.size_extract] at inside
  refine pageOf_eq_ok_iff.2 ⟨positive, by omega, ?_⟩
  rw [Array.extract_extract, Nat.zero_add, Nat.zero_add, Nat.min_eq_left (by omega)]

namespace Question
variable [Sql.Dialect] {file file' : Bytes} {pageSize : Nat} {pager pager' : Pager}

/-- Every question is answered by a reading that uses the pager for its pages alone. -/
theorem byPages (question : Question) : ∃ (α : Type) (reading : Reading α) (wrap : Except Error α → Answer),
    ByPages reading ∧ (∀ result, (wrap result).error? = Outcomes.failure? result) ∧
      ∀ pager, question.answer pager = (reading.on pager).map wrap id := by
  cases question with
  | page number =>
    refine ⟨_, withPage number pure, .page, .page number pure .pure, fun _ => rfl, fun pager => ?_⟩
    rw [on_withPage, answer]
    rcases pager.read number with ⟨error | data, later⟩ <;> rfl
  | entries => exact ⟨_, _, .entries, Catalog.entries_byPages, fun _ => rfl, fun _ => rfl⟩
  | table name => exact ⟨_, _, .table, Catalog.findTable_byPages name, fun _ => rfl, fun _ => rfl⟩
  | schema name => exact ⟨_, _, .schema, Catalog.findSchema_byPages name, fun _ => rfl, fun _ => rfl⟩
  | tableNames => exact ⟨_, _, .tableNames, Catalog.tableNames_byPages, fun _ => rfl, fun _ => rfl⟩
  | rows root => exact ⟨_, _, .rows, scanTable_byPages root, fun _ => rfl, fun _ => rfl⟩
  | request asked => exact ⟨_, _, .result, asked.execute_byPages, fun _ => rfl, fun _ => rfl⟩
  | command given => exact ⟨_, _, .text, given.execute_byPages, fun _ => rfl, fun _ => rfl⟩

/-! ## The pages that are read -/

/-- Answering the question on a file of which nothing was read before reads this page, with these bytes. -/
def Reads (question : Question) (file : Bytes) (pageSize : Nat) (page : PageNumber) (data : Bytes) : Prop :=
  (question.answer (.new file pageSize true)).2.kept? page = some data

/-- What is read is a page of the file. -/
theorem Reads.loaded {question : Question} {page : PageNumber} {data : Bytes}
    (read : question.Reads file pageSize page data) : pageOf file pageSize page = .ok data :=
  (question.answer_same (Pager.over_new file pageSize true) (Pager.over_new file pageSize true)).2.kept page data read

/-- A question that is answered at all is answered alike on every file that has the pages it reads. -/
theorem answer_of_reads (question : Question) (onFile : pager.Over file pageSize) (onFile' : pager'.Over file' pageSize)
    (same : ∀ page data, question.Reads file pageSize page data → pageOf file' pageSize page = .ok data)
    (readable : ¬ (question.answer pager).1.IsIo) : (question.answer pager').1 = (question.answer pager).1 := by
  obtain ⟨α, reading, wrap, reads, errors, answered⟩ := question.byPages
  have fresh := Pager.over_new file pageSize true
  have asFresh := (reads.same onFile fresh).1
  have notIo (error : Error) (failed : (reading.on (.new file pageSize true)).1 = .error error) : error.kind ≠ .io := by
    intro io
    refine readable ⟨error, ?_, io⟩
    rw [answered]
    show (wrap (reading.on pager).1).error? = some error
    rw [errors, asFresh, failed]
    rfl
  have kept := reads.answer_of_kept (Pager.keeps_new file pageSize) fresh onFile'
    (fun page data held => same page data (by rw [Reads, answered]; exact held)) notIo
  rw [answered, answered]
  exact congrArg wrap (kept.trans asFresh.symm)

/-! ## The pages that matter -/

/-- The pages that a question is about, apart from the catalog: the page or the tree that it names, or the trees of
the tables that it names. -/
def Reaches (file : Bytes) (pageSize : Nat) (page : PageNumber) : Question → Prop
  | .page number => page = number
  | .rows root => InTree (pageOf file pageSize) root page
  | .request asked => asked.Reaches file pageSize page
  | .command given => given.Reaches file pageSize page
  | .entries | .table _ | .schema _ | .tableNames => False

/-- A question is answered alike on every file that has the same catalog and the same pages it is about, also when a
page is missing in both. -/
theorem answer_of_trees (question : Question) (onFile : pager.Over file pageSize) (onFile' : pager'.Over file' pageSize)
    (catalog : SameTree file file' pageSize catalogRoot)
    (same : ∀ page, question.Reaches file pageSize page → pageOf file' pageSize page = pageOf file pageSize page) :
    (question.answer pager').1 = (question.answer pager).1 := by
  have alike {α : Type} {reading : Reading α} (reads : ByPages reading) (alike : Alike file file' pageSize reading)
      (wrap : Except Error α → Answer) : wrap (reading.on pager').1 = wrap (reading.on pager).1 :=
    congrArg wrap (alike.on_eq reads onFile onFile')
  cases question with
  | page number =>
    have answered := (Pager.read_over onFile number).1
    have answered' := (Pager.read_over onFile' number).1
    exact congrArg Answer.page (answered'.trans ((same number rfl).trans answered.symm))
  | entries => exact alike Catalog.entries_byPages (Catalog.entries_alike catalog) .entries
  | table name => exact alike (Catalog.findTable_byPages name) (Catalog.findTable_alike catalog name) .table
  | schema name => exact alike (Catalog.findSchema_byPages name) (Catalog.findSchema_alike catalog name) .schema
  | tableNames => exact alike Catalog.tableNames_byPages (Catalog.tableNames_alike catalog) .tableNames
  | rows root => exact alike (scanTable_byPages root) (scanTable_alike same) .rows
  | request asked => exact alike asked.execute_byPages (asked.execute_alike catalog same) .result
  | command given => exact alike given.execute_byPages (given.execute_alike catalog same) .text

end Question

/-- `file'` is `file` with other bytes in some of its pages, none of which is `fixed`. -/
structure Overwritten (fixed : PageNumber → Prop) (pageSize : Nat) (file file' : Bytes) : Prop where
  size_eq : file'.size = file.size
  same : ∀ page, fixed page → ∀ i, i / pageSize + 1 = page.toNat → file'[i]? = file[i]?

namespace Overwritten
variable {fixed : PageNumber → Prop} {pageSize : Nat} {file file' : Bytes}

theorem pageOf_eq (overwritten : Overwritten fixed pageSize file file') (positive : 0 < pageSize) {page : PageNumber}
    (isFixed : fixed page) : pageOf file' pageSize page = pageOf file pageSize page := by
  unfold pageOf
  by_cases zero : page = 0
  · rw [if_pos zero, if_pos zero]
  · have number : 0 < page.toNat := Nat.pos_of_ne_zero fun none => zero (UInt32.toNat_inj.1 none)
    have cut : file'.extract ((page.toNat - 1) * pageSize) ((page.toNat - 1) * pageSize + pageSize) =
        file.extract ((page.toNat - 1) * pageSize) ((page.toNat - 1) * pageSize + pageSize) := by
      apply Array.ext_getElem?
      intro i
      rw [Array.getElem?_extract, Array.getElem?_extract, overwritten.size_eq]
      split
      · refine overwritten.same page isFixed _ ?_
        have below : i < pageSize := by omega
        rw [Nat.mul_comm, Nat.mul_add_div positive, Nat.div_eq_of_lt below]
        omega
      · rfl
    rw [if_neg zero, if_neg zero, Bytes.slice?, Bytes.slice?, overwritten.size_eq, cut]

/-- A file whose first page is fixed starts as before. -/
theorem start_eq (overwritten : Overwritten fixed pageSize file file') (first : fixed 1) (enough : 100 ≤ pageSize) :
    file'.extract 0 100 = file.extract 0 100 := by
  apply Array.ext_getElem?
  intro i
  rw [Array.getElem?_extract, Array.getElem?_extract, overwritten.size_eq, Nat.zero_add]
  split
  · refine overwritten.same 1 first i ?_
    rw [Nat.div_eq_of_lt (by omega)]
    rfl
  · rfl

end Overwritten

/-- A question that a database just opened answers at all has the same answer on every file with the same start that
has the pages read for it. So a file that was cut short behind its header gives the answer of the whole file or fails
to be read, and no bytes outside the catalog and the trees that the question is about matter. -/
theorem answer_from_pages_read [Sql.Dialect] {file : Bytes} {settings : Settings} {database : Database}
    (opened : Database.ofFile file settings = .ok database) (question : Question) :
    (∀ file' : Bytes, file'.extract 0 100 = file.extract 0 100 →
      (∀ page data, question.Reads file database.pageSize page data → pageOf file' database.pageSize page = .ok data) →
      ¬ (question.answer database.pager).1.IsIo →
      ∃ other, Database.ofFile file' settings = .ok other ∧
        (question.answer other.pager).1 = (question.answer database.pager).1) ∧
    (∀ size, 100 ≤ size → ∃ cut, Database.ofFile (file.extract 0 size) settings = .ok cut ∧
      ((question.answer cut.pager).1.IsIo ∨ (question.answer cut.pager).1 = (question.answer database.pager).1)) ∧
    ∀ file' : Bytes,
      Overwritten (fun page => InTree (pageOf file database.pageSize) catalogRoot page ∨
        question.Reaches file database.pageSize page) database.pageSize file file' →
      ∃ other, Database.ofFile file' settings = .ok other ∧
        (question.answer other.pager).1 = (question.answer database.pager).1 := by
  have onFile : database.pager.Over file database.pageSize := Database.over_of_ofFile opened
  obtain ⟨least, -, -⟩ := (FileHeader.valid_of_ofBytes (Database.ofFile_eq_ok_iff.1 opened).1).2
  have opens (file' : Bytes) (start : file'.extract 0 100 = file.extract 0 100) :
      ∃ other, Database.ofFile file' settings = .ok other ∧ other.pager.Over file' database.pageSize :=
    ⟨_, Database.ofFile_of_start opened start, Pager.over_new _ _ _⟩
  refine ⟨?_, ?_, ?_⟩
  · intro file' start same readable
    obtain ⟨other, openedToo, onFile'⟩ := opens file' start
    exact ⟨other, openedToo, question.answer_of_reads onFile onFile' same readable⟩
  · intro size enough
    have start : (file.extract 0 size).extract 0 100 = file.extract 0 100 := by
      rw [Array.extract_extract, Nat.zero_add, Nat.zero_add, Nat.min_eq_left enough]
    obtain ⟨cut, openedToo, onCut⟩ := opens (file.extract 0 size) start
    refine ⟨cut, openedToo, ?_⟩
    by_cases unread : (question.answer cut.pager).1.IsIo
    · exact .inl unread
    · exact .inr (question.answer_of_reads onCut onFile (fun _ _ read => pageOf_of_cut read.loaded) unread).symm
  · intro file' overwritten
    obtain ⟨other, openedToo, onFile'⟩ := opens file' (overwritten.start_eq (.inl .refl) (by unfold Database.pageSize; omega))
    have positive : 0 < database.pageSize := by unfold Database.pageSize; omega
    exact ⟨other, openedToo, question.answer_of_trees onFile onFile'
      (fun _ inside => overwritten.pageOf_eq positive (.inl inside))
      fun _ reached => overwritten.pageOf_eq positive (.inr reached)⟩

/-- A database without tables, and a page behind it that belongs to no tree. -/
def spareFile : Bytes := blankFile ++ Bytes.zeros 512

theorem size_blankFile : blankFile.size = 512 := by
  simp [blankFile]

/-- Behind its header the blank file is what a leaf without rows is laid out as. -/
theorem leafPage_blankFile : Image.leafPage catalogRoot 512 [] =
    .ok (Bytes.zeros (pageStart catalogRoot) ++ (#[13, 0, 0, 0, 0, 2, 0, 0] ++ Bytes.zeros 404)) := by
  have head : Image.headBytes .leafTable 0 512 none = #[13, 0, 0, 0, 0, 2, 0, 0] := by decide
  have floor : Image.floorOf catalogRoot .leafTable 0 = 108 := rfl
  have fits : Image.floorOf catalogRoot .leafTable 0 + Image.total [] ≤ 512 := by decide
  rw [Image.leafPage, List.map_nil, Image.layOut_of_fits fits, Image.treeBytes]
  simp [head, floor, Image.starts]

/-- In every file that starts as the blank one the catalog has no rows. -/
theorem visit_blankFile (rest : Bytes) :
    (Visit.of (pageOf (blankFile ++ rest) 512) catalogRoot).below = [] ∧
      (Visit.of (pageOf (blankFile ++ rest) 512) catalogRoot).outcomes = [] ∧
      (Visit.of (pageOf (blankFile ++ rest) 512) catalogRoot).skipped = [] := by
  have loaded : pageOf (blankFile ++ rest) 512 catalogRoot = .ok blankFile := by
    have start : (blankFile ++ rest).extract 0 512 = blankFile := by
      rw [← size_blankFile, Array.extract_append_left, Array.extract_size]
    have inside : 512 ≤ (blankFile ++ rest).size := by
      rw [Array.size_append, size_blankFile]
      omega
    simp [pageOf, catalogRoot, Bytes.slice?, start, size_blankFile]
  exact Image.visit_leafPage leafPage_blankFile (Nat.le_refl _) (by decide) (FileHeader.size_toBytes _) loaded

/-- In every file that starts as the blank one no table is found. -/
theorem noTable_blankFile [Sql.Dialect] (rest : Bytes) {pager : Pager} (onFile : pager.Over (blankFile ++ rest) 512) :
    ((Question.table "t").answer pager).1 = .table (.error (.tableNotFound "t")) := by
  obtain ⟨bottom, noRows, noErrors⟩ := visit_blankFile rest
  have walked : visits (pageOf (blankFile ++ rest) 512) catalogRoot ∅ [catalogRoot] =
      [Visit.of (pageOf (blankFile ++ rest) 512) catalogRoot] := by
    rw [visits_of_bottom _ _ _ (by simp) (by simp) (by simp [bottom]), List.map_singleton]
  have scanned := scanned_of_visits onFile catalogRoot [] (by simp [walked, noRows]) (by simp [walked, noErrors])
  have read : (Catalog.entries.on pager).1 = .ok ⟨[], []⟩ := Catalog.on_entries (Prod.ext scanned rfl) rfl
  have notCatalog : isCatalogName "t" = false := by decide +kernel
  show Answer.table ((Catalog.findTable "t").on pager).1 = _
  rw [Catalog.findTable, notCatalog, if_neg Bool.false_ne_true, on_bind]
  rcases entries : Catalog.entries.on pager with ⟨result, later⟩
  rw [entries] at read
  cases read
  rfl

/-- A table that is not there is missed alike when the file grows, when it is cut short inside its last page, and
when that page, which belongs to no tree, is overwritten. -/
theorem answer_from_pages_read_spare : ∃ database, Database.ofFile spareFile .default = .ok database ∧
    (∃ other, Database.ofFile (spareFile ++ #[1, 2, 3]) .default = .ok other ∧
      ((Question.table "t").answer other.pager).1 = ((Question.table "t").answer database.pager).1) ∧
    (∃ cut, Database.ofFile (spareFile.extract 0 700) .default = .ok cut ∧
      (((Question.table "t").answer cut.pager).1.IsIo ∨
        ((Question.table "t").answer cut.pager).1 = ((Question.table "t").answer database.pager).1)) ∧
    ∃ other, Database.ofFile (blankFile ++ Array.replicate 512 7) .default = .ok other ∧
      ((Question.table "t").answer other.pager).1 = ((Question.table "t").answer database.pager).1 := by
  have opened : Database.ofFile spareFile .default =
      .ok ⟨smallHeader, .new spareFile 512 true⟩ := by
    rw [spareFile, blankFile, Array.append_assoc]
    exact Database.ofFile_append rfl valid_smallHeader rfl _ _
  have size : spareFile.size = 1024 := by
    rw [spareFile, Array.size_append, size_blankFile, Bytes.zeros, Array.size_replicate]
  have whole : (spareFile ++ #[1, 2, 3]).extract 0 1024 = spareFile := by
    rw [← size, Array.extract_append_left, Array.extract_size]
  have start : (spareFile ++ #[1, 2, 3]).extract 0 100 = spareFile.extract 0 100 := by
    rw [← whole, Array.extract_extract, whole]
    rfl
  have answered : ((Question.table "t").answer (.new spareFile 512 true)).1 = .table (.error (.tableNotFound "t")) :=
    noTable_blankFile (Bytes.zeros 512) (Pager.over_new spareFile 512 true)
  have readable : ¬ ((Question.table "t").answer (.new spareFile 512 true)).1.IsIo := by
    rw [answered]
    rintro ⟨error, failed, io⟩
    cases failed
    cases io
  obtain ⟨bottom, -⟩ := visit_blankFile (Bytes.zeros 512)
  have onlyRoot (number : PageNumber) (inside : InTree (pageOf spareFile 512) catalogRoot number) :
      number = catalogRoot := by
    induction inside with
    | refl => rfl
    | tail _ step found =>
      rw [found, spareFile, bottom] at step
      cases step
  obtain ⟨grown, cut, overwritten⟩ := answer_from_pages_read opened (.table "t")
  refine ⟨_, opened, grown _ start ?_ readable, cut 700 (by decide), overwritten _ ⟨?_, ?_⟩⟩
  · intro page data read
    have loaded : pageOf ((spareFile ++ #[1, 2, 3]).extract 0 1024) 512 page = .ok data := by
      rw [whole]
      exact read.loaded
    exact pageOf_of_cut loaded
  · rw [size, Array.size_append, size_blankFile, Array.size_replicate]
  · rintro number (inside | none) i within
    · obtain rfl := onlyRoot number inside
      have before : i < blankFile.size := by
        have first : i / 512 + 1 = 1 := within
        rw [size_blankFile]
        omega
      rw [spareFile, Array.getElem?_append_left before, Array.getElem?_append_left before]
    · cases none

end SqliteReader
