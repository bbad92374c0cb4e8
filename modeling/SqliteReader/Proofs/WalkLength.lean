import SqliteReader.Proofs.FileHeader
import SqliteReader.Proofs.Operations
import SqliteReader.Sql.Parser.Statement

/-!
# How long a walk is

A walk ends on every file, however the pages of the file name each other. A page that is read for the first time puts
no more on the stack and among the rows at hand than fit into it, and leaves one page fewer to read; every other page
taken off the stack gives one error. So the steps of a walk are bounded by the pages of the file and their size alone
(`length_left_le`), and what goes over a walk ends with it (`walks_end`).
-/
namespace SqliteReader
open Cursor (unseen unseen_insert untried untried_insert_le untried_insert_lt)

/-- A page has room for so many rows or children. -/
theorem Visit.length_le {number : PageNumber} {data : Bytes} {page : Page} (read : Page.read number data = .ok page) :
    (Visit.leaf page).outcomes.length + (Visit.leaf page).below.length ≤ data.size / 2 ∧
      (Visit.interior page).outcomes.length + (Visit.interior page).below.length ≤ data.size / 2 := by
  obtain ⟨-, -, fits⟩ := Page.of_read read
  constructor
  · have rows := Visit.length_rows_add_skipped page
    simp only [outcomes, List.length_map, below, List.length_nil]
    omega
  · have cells : (Outcomes.results page.childrenAt).length ≤ page.pointers.length := by
      have all := Outcomes.length_results_add_failures page.childrenAt
      rw [Page.childrenAt, List.length_map] at all
      exact Nat.le_trans (Nat.le_add_right _ _) (Nat.le_of_eq all)
    have last : page.header.rightMost.toList.length ≤ 1 := by cases page.header.rightMost <;> simp
    have children : (page.named.filter (· ≠ 0)).length ≤ page.named.length := List.length_filter_le _ _
    have named : page.named.length = (Outcomes.results page.childrenAt).length + page.header.rightMost.toList.length := by
      rw [Page.named, List.length_append, List.length_map]
    simp only [outcomes, rows, List.map_nil, List.length_nil, below]
    omega

section
variable {pages : Nat} {seen : Seen} {page : PageNumber}

@[simp] theorem untried_empty : untried pages ∅ = pages := by
  induction pages with
  | zero => rfl
  | succ pages ih => simp [untried, ih]

theorem untried_le : untried pages seen ≤ pages := by
  induction pages with
  | zero => exact Nat.le_refl 0
  | succ pages ih => grind [untried]

/-- A page of the file that is tried for the first time leaves fewer untried. -/
theorem untried_insert_lt_of_inside (fresh : seen.contains page = false) (positive : 0 < page.toNat)
    (inside : page.toNat ≤ pages) : untried pages (seen.insert page) < untried pages seen := by
  refine untried_insert_lt fresh (page.toNat - 1) ?_ (by omega)
  rw [Nat.sub_add_cancel positive, UInt32.ofNat_toNat]

end

section
variable (file : Bytes) (pageSize : Nat)

/-- A page tried for the first time is paid for by the room in one page. -/
theorem visit_cost {seen : Seen} {page : PageNumber} (fresh : seen.contains page = false) :
    (Visit.of (pageOf file pageSize) page).outcomes.length + (Visit.of (pageOf file pageSize) page).below.length +
      pageSize / 2 * untried (file.size / pageSize) (seen.insert page) ≤
        1 + pageSize / 2 * untried (file.size / pageSize) seen := by
  rcases Visit.of_cases (pageOf file pageSize) page with ⟨error, met⟩ | ⟨data, read, loaded, parsed, met⟩
  · rw [met]
    have fewer := Nat.mul_le_mul_left (pageSize / 2) (untried_insert_le (file.size / pageSize) seen page)
    simp only [Visit.outcomes, Visit.below, List.length_singleton, List.length_nil]
    omega
  · obtain ⟨positive, inside, -⟩ := pageOf_eq_ok_iff.1 loaded
    obtain ⟨-, -, fits⟩ := Page.of_read parsed
    have size := size_of_pageOf loaded
    have number : page.toNat ≤ file.size / pageSize := (Nat.le_div_iff_mul_le (by omega)).2 inside
    have fewer := Nat.mul_le_mul_left (pageSize / 2) (untried_insert_lt_of_inside fresh positive number)
    obtain ⟨leaf, interior⟩ := Visit.length_le parsed
    rw [Nat.mul_succ] at fewer
    rw [size] at leaf interior
    rcases met with met | met <;> rw [met] <;> omega

/-- A walk gives no more outcomes than there are pages to start from and room in the pages that it tries. -/
theorem length_outcomes_visits_le (root : PageNumber) (seen : Seen) (pages : List PageNumber) :
    ((visits (pageOf file pageSize) root seen pages).flatMap Visit.outcomes).length +
      pageSize / 2 * untried (file.size / pageSize) (triedBy (pageOf file pageSize) root seen pages) ≤
        pages.length + pageSize / 2 * untried (file.size / pageSize) seen := by
  match pages with
  | [] => simp
  | page :: pages =>
    by_cases tried : seen.contains page
    · have later := length_outcomes_visits_le root seen pages
      simp only [visits_seen _ _ tried, triedBy_seen _ _ tried, List.flatMap_cons, Visit.outcomes, List.length_append,
        List.length_cons, List.length_nil]
      omega
    · have fresh : seen.contains page = false := by simpa using tried
      have fewer : unseen (seen.insert page) < unseen seen := unseen_insert fresh
      have fewerBehind := Nat.lt_of_le_of_lt
        (walk (pageOf file pageSize) root (seen.insert page) (Visit.of (pageOf file pageSize) page).below).2.2 fewer
      have here := visit_cost file pageSize fresh
      have under := length_outcomes_visits_le root (seen.insert page) (Visit.of (pageOf file pageSize) page).below
      have behind := length_outcomes_visits_le root
        (triedBy (pageOf file pageSize) root (seen.insert page) (Visit.of (pageOf file pageSize) page).below) pages
      simp only [visits_fresh _ _ fresh, triedBy_fresh _ _ fresh, List.flatMap_cons, List.flatMap_append,
        List.length_append, List.length_cons]
      omega
termination_by (unseen seen, pages.length)
decreasing_by
  · exact .right _ (by simp)
  · exact .left _ _ fewer
  · exact .left _ _ fewerBehind

end

namespace Cursor

/-- The most rows and errors that a walk gives on a file of so many pages of this size. -/
def mostSteps (pages pageSize : Nat) : Nat := pageSize / 2 * pages + 1

/-- The states that a walk can be in after so many steps since it was started or reset. -/
inductive Reached (file : Bytes) (pageSize : Nat) : Nat → Cursor → Prop
  | start (root : PageNumber) : Reached file pageSize 0 (new root)
  | next {steps : Nat} {cursor : Cursor} {pager : Pager} (reached : Reached file pageSize steps cursor)
      (onFile : pager.Over file pageSize) : Reached file pageSize (steps + 1) (cursor.next pager).2.1
  | takeSkipped {steps : Nat} {cursor : Cursor} (reached : Reached file pageSize steps cursor) :
      Reached file pageSize steps cursor.takeSkipped.2
  | reset {steps : Nat} {cursor : Cursor} (reached : Reached file pageSize steps cursor) :
      Reached file pageSize 0 cursor.reset

/-- `next` in at most so many turns of its loop, each of which gives a row, ends the walk, fails, or reads a page. -/
def nextWithin : (turns : Nat) → Cursor → Pager → Option (Except Error (Option LeafCell) × Cursor × Pager)
  | 0, _, _ => none
  | turns + 1, cursor, pager =>
    match cursor.pending with
    | cell :: pending => some (.ok (some cell), { cursor with pending }, pager)
    | [] =>
      match cursor.stack with
      | [] => some (.ok none, cursor, pager)
      | page :: stack =>
        match visit { cursor with stack } page pager with
        | (.error error, cursor, pager) => some (.error error, cursor, pager)
        | (.ok (), cursor, pager) => nextWithin turns cursor pager

/-- `fold` in at most so many steps, each of at most so many turns. -/
def foldWithin {β : Type} (f : β → LeafCell → Except Error β) (turns : Nat) :
    (steps : Nat) → β → Cursor → Pager → Option (Except Error β × Cursor × Pager)
  | 0, _, _, _ => none
  | steps + 1, state, cursor, pager =>
    match cursor.nextWithin turns pager with
    | none => none
    | some (.error error, last) => some (.error error, last)
    | some (.ok none, last) => some (.ok state, last)
    | some (.ok (some cell), cursor, pager) =>
      match f state cell with
      | .error error => some (.error error, cursor, pager)
      | .ok state => foldWithin f turns steps state cursor pager

section
variable {file : Bytes} {pageSize : Nat} {pager : Pager}

theorem length_left_new_le (file : Bytes) (pageSize : Nat) (root : PageNumber) :
    ((new root).left (pageOf file pageSize)).length ≤ mostSteps (file.size / pageSize) pageSize := by
  have all := length_outcomes_visits_le file pageSize root ∅ [root]
  rw [untried_empty, List.length_singleton] at all
  rw [left_new, mostSteps]
  omega

theorem stepped_of_next (onFile : pager.Over file pageSize) {cursor later : Cursor} {pager' : Pager}
    {result : Except Error (Option LeafCell)} (given : cursor.next pager = (result, later, pager')) :
    pager'.Over file pageSize ∧ Stepped (pageOf file pageSize) cursor later result := by
  have stepped := next_stepped onFile cursor
  rwa [given] at stepped

/-- A step takes one off what is left, as long as something is. -/
theorem length_left_next (onFile : pager.Over file pageSize) (cursor : Cursor) :
    ((cursor.next pager).2.1.left (pageOf file pageSize)).length = (cursor.left (pageOf file pageSize)).length - 1 := by
  obtain ⟨-, stepped⟩ := next_stepped onFile cursor
  rcases given : (cursor.next pager).1 with error | _ | cell <;> rw [given] at stepped <;> simp [stepped.1, stepped.2]

/-- After so many steps a walk has at most so many left. -/
theorem Reached.length_left_le {steps : Nat} {cursor : Cursor} (reached : Reached file pageSize steps cursor) :
    (cursor.left (pageOf file pageSize)).length ≤ mostSteps (file.size / pageSize) pageSize - steps := by
  induction reached with
  | start root => exact length_left_new_le file pageSize root
  | @next steps cursor pager _ onFile ih =>
    rw [length_left_next onFile]
    omega
  | takeSkipped _ ih => exact ih
  | @reset _ cursor _ _ => exact length_left_new_le file pageSize cursor.root

/-- A walk that has nothing left gives no row. -/
theorem next_of_left_nil (onFile : pager.Over file pageSize) {cursor : Cursor}
    (ended : cursor.left (pageOf file pageSize) = []) : (cursor.next pager).1 = .ok none := by
  obtain ⟨-, stepped⟩ := next_stepped onFile cursor
  rcases given : (cursor.next pager).1 with error | _ | cell
  · simp [given, Stepped, ended] at stepped
  · rfl
  · simp [given, Stepped, ended] at stepped

/-- A page that is read on the way to the next row leaves fewer pages untried. -/
theorem untried_visit (onFile : pager.Over file pageSize) {cursor entered : Cursor} {page : PageNumber}
    {later : Pager} (visited : cursor.visit page pager = (.ok (), entered, later)) :
    untried (file.size / pageSize) entered.seen < untried (file.size / pageSize) cursor.seen ∧
      later.Over file pageSize := by
  by_cases tried : cursor.seen.contains page
  · rw [visit_seen cursor tried] at visited
    cases visited
  · have fresh : cursor.seen.contains page = false := by simpa using tried
    obtain ⟨later', overNext, met⟩ := visit_fresh onFile cursor fresh
    rw [met] at visited
    rcases Visit.of_cases (pageOf file pageSize) page with ⟨error, failed⟩ | ⟨data, read, loaded, parsed, -⟩
    · simp [failed] at visited
    · obtain ⟨positive, inside, -⟩ := pageOf_eq_ok_iff.1 loaded
      obtain ⟨-, -, fits⟩ := Page.of_read parsed
      have size := size_of_pageOf loaded
      have number : page.toNat ≤ file.size / pageSize := (Nat.le_div_iff_mul_le (by omega)).2 inside
      have fewer := untried_insert_lt_of_inside fresh positive number
      simp only [Prod.mk.injEq] at visited
      obtain ⟨-, rfl, rfl⟩ := visited
      exact ⟨fewer, overNext⟩

/-- A step takes one turn more than it reads pages, and it reads each page of the file at most once. -/
theorem nextWithin_eq (onFile : pager.Over file pageSize) {turns : Nat} {cursor : Cursor}
    (enough : untried (file.size / pageSize) cursor.seen < turns) :
    cursor.nextWithin turns pager = some (cursor.next pager) := by
  induction turns generalizing cursor pager with
  | zero => omega
  | succ turns ih =>
    unfold nextWithin
    split
    · rename_i row
      rw [next]
      simp only [row]
    · rename_i noRows
      split
      · rename_i noPages
        rw [next]
        simp only [noRows, noPages]
      · rename_i page stack top
        rw [next_visit noRows top]
        split
        · rename_i error failed later visited
          rw [visited]
        · rename_i entered later visited
          rw [visited]
          obtain ⟨fewer, overNext⟩ := untried_visit onFile visited
          exact ih overNext (by simp only at fewer; omega)

/-- A fold takes one step more than it is given rows, and each step takes its turns. -/
theorem foldWithin_eq {β : Type} (onFile : pager.Over file pageSize) (f : β → LeafCell → Except Error β) {turns : Nat}
    (manyTurns : file.size / pageSize < turns) {steps : Nat} {cursor : Cursor}
    (manySteps : (cursor.left (pageOf file pageSize)).length < steps) (state : β) :
    cursor.foldWithin f turns steps state pager = some (cursor.fold f state pager) := by
  induction steps generalizing cursor state pager with
  | zero => omega
  | succ steps ih =>
    rw [foldWithin, nextWithin_eq onFile (Nat.lt_of_le_of_lt untried_le manyTurns), fold_of_next]
    rcases given : cursor.next pager with ⟨error | _ | cell, later, pager'⟩
    · rfl
    · rfl
    · obtain ⟨overNext, stepped⟩ := stepped_of_next onFile given
      cases taken : f state cell with
      | error error => simp only [taken]
      | ok state =>
        simp only [taken]
        refine ih overNext ?_ state
        rw [stepped.1, List.length_cons] at manySteps
        omega

end
end Cursor

namespace Scanner
variable {file : Bytes} {pageSize : Nat} {pager : Pager}

/-- Once the end was met a scanner gives no record. -/
theorem scan_of_exhausted {scanner : Scanner} (ended : scanner.isExhausted = true) (pager : Pager) :
    scanner.scan pager = (.ok none, scanner, pager) := if_pos ended

/-- A scanner whose cursor gives no row gives no record. -/
theorem scan_of_next_none {scanner : Scanner} (ended : (scanner.cursor.next pager).1 = .ok none) :
    (scanner.scan pager).1 = .ok none := by
  rw [scan]
  split
  · rfl
  · rcases walked : scanner.cursor.next pager with ⟨result, cursor, pager'⟩
    rw [walked] at ended
    cases ended
    rfl

/-- A scanner that gives no item has met the end, and any item is one off what its cursor had left. -/
theorem next_within (onFile : pager.Over file pageSize) {scanner later : Scanner}
    {item : Option (Except Error Record)} {pager' : Pager} (given : scanner.next pager = (item, later, pager')) :
    pager'.Over file pageSize ∧ (item = none → later.isExhausted = true) ∧
      (item ≠ none → (scanner.cursor.left (pageOf file pageSize)).length =
        (later.cursor.left (pageOf file pageSize)).length + 1) := by
  rw [next] at given
  cases ended : scanner.isExhausted with
  | true =>
    rw [scan_of_exhausted ended] at given
    cases given
    exact ⟨onFile, fun _ => ended, fun some => absurd rfl some⟩
  | false =>
    rw [scan, ended, if_neg Bool.false_ne_true] at given
    rcases walked : scanner.cursor.next pager with ⟨result, cursor, behind⟩
    obtain ⟨overNext, stepped⟩ := Cursor.stepped_of_next onFile walked
    rw [walked] at given
    rcases result with error | _ | cell
    · cases given
      exact ⟨overNext, nofun, fun _ => congrArg List.length stepped.1⟩
    · cases given
      exact ⟨overNext, fun _ => rfl, fun some => absurd rfl some⟩
    · -- A record and an error in its place are items alike.
      cases read : Record.ofCell cell <;> simp only [read] at given <;> cases given <;>
        exact ⟨overNext, nofun, fun _ => congrArg List.length stepped.1⟩

/-- Taking items from a scanner takes as many off what its cursor has left, unless it meets the end. -/
theorem items_within (onFile : pager.Over file pageSize) (scanner : Scanner) (count : Nat) :
    (scanner.items pager count).1.length ≤ (scanner.cursor.left (pageOf file pageSize)).length ∧
      ((scanner.items pager count).2.1.isExhausted = true ∨
        ((scanner.items pager count).2.1.cursor.left (pageOf file pageSize)).length ≤
          (scanner.cursor.left (pageOf file pageSize)).length - count) ∧
      (scanner.items pager count).2.2.Over file pageSize := by
  induction count generalizing scanner pager with
  | zero => exact ⟨Nat.zero_le _, .inr (Nat.le_refl _), onFile⟩
  | succ count ih =>
    rw [items]
    rcases given : scanner.next pager with ⟨item, later, pager'⟩
    obtain ⟨overNext, ends, takes⟩ := next_within onFile given
    cases item with
    | none => exact ⟨Nat.zero_le _, .inl (ends rfl), overNext⟩
    | some item =>
      have one := takes (Option.some_ne_none item)
      obtain ⟨few, fewLeft, overEnd⟩ := ih overNext later
      refine ⟨?_, fewLeft.imp_right fun fewLeft => ?_, overEnd⟩
      · rw [List.length_cons, one]
        exact Nat.succ_le_succ few
      · show (_ : Nat) ≤ _
        rw [one, Nat.add_sub_add_right]
        exact fewLeft

end Scanner

/-- Counting one by one over a list ends at its length at most. -/
theorem count_le {γ : Type} {f : Nat → γ → Except Error Nat} (step : ∀ n c m, f n c = .ok m → m ≤ n + 1)
    {items : List γ} {start last : Nat} (counted : items.foldlM f start = .ok last) : last ≤ start + items.length := by
  induction items generalizing start with
  | nil =>
    cases counted
    simp
  | cons item items ih =>
    rw [List.foldlM_cons] at counted
    obtain ⟨next, one, rest⟩ := Outcomes.ok_of_bind counted
    have here := step start item next one
    have behind := ih rest
    rw [List.length_cons]
    omega

section
variable {file : Bytes} {pageSize : Nat} {pager : Pager} (onFile : pager.Over file pageSize)
include onFile

/-- A table has no more rows than its walk has steps. -/
theorem length_rows_le {root : PageNumber} {read : Partial LeafCell}
    (scanned : ((scanTable root).on pager).1 = .ok read) :
    read.results.length ≤ Cursor.mostSteps (file.size / pageSize) pageSize := by
  have few := Cursor.length_left_new_le file pageSize root
  rw [on_scanTable onFile] at scanned
  obtain ⟨cells, collected, rfl⟩ := Outcomes.ok_of_map scanned
  rw [Cursor.left_new, (Outcomes.collect_eq_ok_iff _ cells).1 collected, List.length_map] at few
  exact few

/-- The catalog has no more entries than it has rows. -/
theorem Catalog.length_entries_le {read : Partial Entry} (found : (entries.on pager).1 = .ok read) :
    read.results.length ≤ Cursor.mostSteps (file.size / pageSize) pageSize := by
  rw [entries, Reading.on_bind] at found
  rcases scanned : (scanTable catalogRoot).on pager with ⟨error | cells, later⟩
  · simp [scanned] at found
  · have few := length_rows_le onFile (congrArg Prod.fst scanned)
    simp only [scanned, Reading.on_pure, Except.ok.injEq] at found
    subst found
    have all := Outcomes.length_results_add_failures (cells.results.map entryOf)
    rw [List.length_map] at all
    rw [Outcomes.ofOutcomes_eq]
    dsimp only
    omega

/-- No more records of a table are counted than its walk has steps. -/
theorem Request.count_le_mostSteps [Sql.Dialect] {table : TableRef} {count : Nat} {skipped : List Error}
    (counted : ((countTable table).on pager).1 = .ok (count, skipped)) :
    count ≤ Cursor.mostSteps (file.size / pageSize) pageSize := by
  rw [countTable, Reading.on_bind] at counted
  obtain ⟨-, overNext⟩ := (Catalog.findSchema_byPages table.name).same onFile onFile
  rcases found : (Catalog.findSchema table.name).on pager with ⟨error | schema, later⟩
  · simp [found] at counted
  · rw [found] at counted overNext
    have few := Cursor.length_left_new_le file pageSize schema.rootPage
    simp only [foldRecords, on_foldCells overNext] at counted
    obtain ⟨last, folded, same⟩ := Outcomes.ok_of_map counted
    cases same
    rw [Cursor.left_new] at few
    have all := count_le ?_ folded
    · omega
    · intro n outcome m one
      obtain ⟨cell, -, one⟩ := Outcomes.ok_of_bind one
      obtain ⟨record, -, one⟩ := Outcomes.ok_of_bind one
      cases one
      exact Nat.le_refl _

end

/-- Walks end on every file, and so do all loops over them. A step reads each page of the file at most once on its way
to the next row. After a number of steps that the number of pages and their size determine, errors among them, a walk
gives no row until it is reset. Whatever is folded over a table takes no more steps than that, and one; a scanner gives
no more items, a scan no more rows, the catalog no more entries, and a count is no larger. -/
theorem walks_end [Sql.Dialect] (file : Bytes) (pageSize : Nat) :
    let pages := file.size / pageSize
    let most := Cursor.mostSteps pages pageSize
    (∀ (cursor : Cursor) (pager : Pager), pager.Over file pageSize →
      cursor.nextWithin (pages + 1) pager = some (cursor.next pager)) ∧
    (∀ (steps : Nat) (cursor : Cursor) (pager : Pager), Cursor.Reached file pageSize steps cursor → most ≤ steps →
      pager.Over file pageSize → (cursor.next pager).1 = .ok none) ∧
    (∀ {α : Type} (f : α → LeafCell → Except Error α) (state : α) (steps : Nat) (cursor : Cursor) (pager : Pager),
      Cursor.Reached file pageSize steps cursor → pager.Over file pageSize →
      cursor.foldWithin f (pages + 1) (most + 1) state pager = some (cursor.fold f state pager)) ∧
    (∀ (scanner : Scanner) (steps count : Nat) (pager : Pager), Cursor.Reached file pageSize steps scanner.cursor →
      pager.Over file pageSize → (scanner.items pager count).1.length ≤ most ∧
        (most ≤ count → ((scanner.items pager count).2.1.scan (scanner.items pager count).2.2).1 = .ok none)) ∧
    ∀ pager : Pager, pager.Over file pageSize →
      (∀ root read, ((scanTable root).on pager).1 = .ok read → read.results.length ≤ most) ∧
      (∀ read, (Catalog.entries.on pager).1 = .ok read → read.results.length ≤ most) ∧
      ∀ table count skipped, ((Request.countTable table).on pager).1 = .ok (count, skipped) → count ≤ most := by
  intro pages most
  have few {steps : Nat} {cursor : Cursor} (reached : Cursor.Reached file pageSize steps cursor) :
      (cursor.left (pageOf file pageSize)).length ≤ most - steps := reached.length_left_le
  have ended {cursor : Cursor} (nothing : (cursor.left (pageOf file pageSize)).length ≤ 0) {pager : Pager}
      (onFile : pager.Over file pageSize) : (cursor.next pager).1 = .ok none :=
    Cursor.next_of_left_nil onFile (List.length_eq_zero_iff.1 (Nat.le_zero.1 nothing))
  refine ⟨?_, ?_, ?_, ?_, ?_⟩
  · intro cursor pager onFile
    exact Cursor.nextWithin_eq onFile (Nat.lt_succ_of_le untried_le)
  · intro steps cursor pager reached enough onFile
    have left := few reached
    exact ended (by omega) onFile
  · intro α f state steps cursor pager reached onFile
    have left := few reached
    exact Cursor.foldWithin_eq onFile f (Nat.lt_succ_self _) (by omega) state
  · intro scanner steps count pager reached onFile
    have left := few reached
    obtain ⟨given, ends | leftOver, overEnd⟩ := scanner.items_within onFile count
    · refine ⟨by omega, fun _ => ?_⟩
      rw [Scanner.scan_of_exhausted ends]
    · refine ⟨by omega, fun enough => ?_⟩
      exact Scanner.scan_of_next_none (ended (by omega) overEnd)
  · intro pager onFile
    exact ⟨fun _ _ => length_rows_le onFile, fun _ => Catalog.length_entries_le onFile,
      fun _ _ _ => Request.count_le_mostSteps onFile⟩

/-- A file of two pages, of which the second is an interior page with itself as its child. -/
def loopFile : Bytes := smallFile #[13, 0, 0, 0, 0, 2, 0, 0] [#[5, 0, 0, 0, 0, 0, 0, 0, 0, 0, 0, 2]]

/-- A step of a walk into a loop takes three turns at most, and after 513 steps the walk gives no row. -/
theorem walks_end_loop : let pager := Pager.new loopFile 512 true
    (Cursor.new 2).nextWithin 3 pager = some ((Cursor.new 2).next pager) ∧
      (∀ cursor, Cursor.Reached loopFile 512 513 cursor → (cursor.next pager).1 = .ok none) ∧
      ((Scanner.new "loop" 2).items pager 600).1.length ≤ 513 := by
  intro pager
  have onFile : pager.Over loopFile 512 := Pager.over_smallFile true
  have size : loopFile.size = 2 * 512 := size_smallFile (by decide +kernel)
  have pages : loopFile.size / 512 = 2 := by rw [size]
  obtain ⟨turns, steps, -, scanned, -⟩ := walks_end loopFile 512
  rw [pages] at turns steps scanned
  have most : Cursor.mostSteps 2 512 = 513 := by decide
  rw [most] at steps scanned
  have start : Cursor.Reached loopFile 512 0 (Scanner.new "loop" 2).cursor := .start 2
  have given := scanned (.new "loop" 2) 0 600 pager start onFile
  refine ⟨turns _ _ onFile, fun cursor reached => ?_, given.1⟩
  exact steps 513 cursor pager reached (Nat.le_refl 513) onFile

end SqliteReader
