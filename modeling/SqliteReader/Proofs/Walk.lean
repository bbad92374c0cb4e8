import SqliteReader.Proofs.Partial
import SqliteReader.Proofs.Reading
import SqliteReader.Scan

/-!
# The walk over a tree, page by page

`visits` is the recursive walk over the pages of a file: from left to right, each page before the ones
below it, with the set of pages that were tried so far handed on. A `Visit` says what was met at one
page: a leaf with rows, an interior page with children, or an error. `Cursor.next` takes its steps from
a stack and a queue instead; `next_stepped` says that they are the outcomes of this walk, one by one.
-/
namespace SqliteReader

/-- The pages tried so far. -/
abbrev Seen := Std.HashSet PageNumber

namespace Page

/-- What stands at each pointer of a leaf: a row, or the reason why none can be read. -/
def rowsAt (page : Page) : List (Except Error LeafCell) := page.pointers.map page.leafCell

/-- What stands at each pointer of an interior page: a child, or the reason why none can be read. -/
def childrenAt (page : Page) : List (Except Error InteriorCell) := page.pointers.map page.interiorCell

/-- The children that the page names, zeros included, the right-most one last. -/
def named (page : Page) : List PageNumber :=
  (Outcomes.results page.childrenAt).map InteriorCell.leftChild ++ page.header.rightMost.toList

@[simp] theorem length_pointersAt (data : Bytes) (offset count : Nat) : (pointersAt data offset count).length = count := by
  simp [pointersAt]

/-- A page that is read keeps its number and its bytes, and has the pointers behind its header. -/
theorem layout_of_read {number : PageNumber} {data : Bytes} {page : Page} (read : Page.read number data = .ok page) :
    page.number = number ∧ page.data = data ∧
      page.pointers = pointersAt data (pageStart number + page.kind.headerSize) page.header.cellCount.toNat ∧
      page.contentFloor = pageStart number + page.kind.headerSize + page.header.cellCount.toNat * 2 ∧
      page.contentFloor ≤ data.size := by
  obtain ⟨header, -, read⟩ := Outcomes.ok_of_bind read
  dsimp only at read
  split at read
  · cases read
  · rename_i inside
    cases read
    refine ⟨rfl, rfl, rfl, ?_, ?_⟩ <;> rw [contentFloor, length_pointersAt]
    · rfl
    · exact Nat.not_lt.1 inside

theorem of_read {number : PageNumber} {data : Bytes} {page : Page} (read : Page.read number data = .ok page) :
    page.number = number ∧ page.data = data ∧ 8 + page.pointers.length * 2 ≤ data.size := by
  obtain ⟨sameNumber, sameData, pointers, floor, inside⟩ := layout_of_read read
  have headerSize := page.kind.headerSize_bounds.1
  rw [pointers, length_pointersAt]
  exact ⟨sameNumber, sameData, by omega⟩

theorem number_of_read {number : PageNumber} {data : Bytes} {page : Page} (read : Page.read number data = .ok page) :
    page.number = number := (of_read read).1

theorem leafCells_eq (page : Page) :
    page.leafCells = ⟨Outcomes.results page.rowsAt, Outcomes.failures page.rowsAt⟩ :=
  Outcomes.ofOutcomes_eq _

theorem interiorCells_eq (page : Page) :
    page.interiorCells = ⟨Outcomes.results page.childrenAt, Outcomes.failures page.childrenAt⟩ :=
  Outcomes.ofOutcomes_eq _

theorem children_eq (page : Page) : page.children =
    ⟨page.named.filter (· ≠ 0), Outcomes.failures page.childrenAt ++
      (page.named.filter (· = 0)).map fun _ => .corruptedPage page.number .noChild⟩ := by
  simp only [children, interiorCells_eq, List.partition_eq_filter_filter, named]
  congr 3
  apply List.filter_congr
  simp

end Page

/-- What a walk meets at one page. -/
inductive Visit
  | leaf (page : Page)
  | interior (page : Page)
  | failed (error : Error)

namespace Visit

/-- What is met at a page that was not tried before. -/
def of (load : PageNumber → Except Error Bytes) (page : PageNumber) : Visit :=
  match (load page).bind (Page.read page) with
  | .error error => failed error
  | .ok read =>
    match read.kind with
    | .leafTable => leaf read
    | .interiorTable => interior read
    | .interiorIndex | .leafIndex => failed (.invalidPageType page read.kind.tag)

/-- What is met at a page is an error, or a leaf or an interior page that was read. -/
theorem of_cases (load : PageNumber → Except Error Bytes) (page : PageNumber) :
    (∃ error, of load page = .failed error) ∨ ∃ data read, load page = .ok data ∧ Page.read page data = .ok read ∧
      (of load page = .leaf read ∨ of load page = .interior read) := by
  unfold Visit.of
  cases parsed : (load page).bind (Page.read page) with
  | error error => exact .inl ⟨error, rfl⟩
  | ok read =>
    obtain ⟨data, loaded, parsed⟩ := Outcomes.ok_of_bind parsed
    cases kind : read.kind with
    | leafTable => exact .inr ⟨data, read, loaded, parsed, .inl (by simp only [kind])⟩
    | interiorTable => exact .inr ⟨data, read, loaded, parsed, .inr (by simp only [kind])⟩
    | interiorIndex | leafIndex => exact .inl ⟨.invalidPageType page read.kind.tag, by simp only [kind]⟩

/-- A page that evaluates to a leaf is met as one, with the rows and errors it evaluates to. -/
theorem leaf_of_evaluated {load : PageNumber → Except Error Bytes} {page : PageNumber} {data : Bytes}
    (cells : List LeafCell) (errors : List Error) (loaded : load page = .ok data)
    (read : ((Page.read page data).toOption.map fun page =>
      (page.kind, Outcomes.results page.rowsAt, Outcomes.failures page.rowsAt)) = some (.leafTable, cells, errors)) :
    ∃ met, of load page = .leaf met ∧ Outcomes.results met.rowsAt = cells ∧ Outcomes.failures met.rowsAt = errors := by
  obtain ⟨met, given, facts⟩ := Option.map_eq_some_iff.1 read
  obtain ⟨kind, rows, failed⟩ := by simpa only [Prod.mk.injEq] using facts
  refine ⟨met, ?_, rows, failed⟩
  simp only [of, loaded, Except.bind, Outcomes.ok_of_toOption given, kind]

/-- The same for an interior page. -/
theorem interior_of_evaluated {load : PageNumber → Except Error Bytes} {page : PageNumber} {data : Bytes}
    (cells : List InteriorCell) (errors : List Error) (below : List PageNumber) (loaded : load page = .ok data)
    (read : ((Page.read page data).toOption.map fun page =>
      (page.kind, Outcomes.results page.childrenAt, Outcomes.failures page.childrenAt, page.named)) =
        some (.interiorTable, cells, errors, below)) :
    ∃ met, of load page = .interior met ∧ Outcomes.results met.childrenAt = cells ∧
      Outcomes.failures met.childrenAt = errors ∧ met.named = below := by
  obtain ⟨met, given, facts⟩ := Option.map_eq_some_iff.1 read
  obtain ⟨kind, children, failed, named⟩ := by simpa only [Prod.mk.injEq] using facts
  refine ⟨met, ?_, children, failed, named⟩
  simp only [of, loaded, Except.bind, Outcomes.ok_of_toOption given, kind]

/-- The pages to walk below this one, from left to right. -/
def below : Visit → List PageNumber
  | interior page => page.named.filter (· ≠ 0)
  | leaf _ | failed _ => []

/-- The rows that are read here. -/
def rows : Visit → List LeafCell
  | leaf page => Outcomes.results page.rowsAt
  | interior _ | failed _ => []

/-- What the walk gives here: the readable rows of a leaf, or one error. -/
def outcomes : Visit → List (Except Error LeafCell)
  | failed error => [.error error]
  | visit => visit.rows.map .ok

/-- What the walk passes over here. -/
def skipped : Visit → List Error
  | leaf page => Outcomes.failures page.rowsAt
  | interior page => Outcomes.failures page.childrenAt ++
      (page.named.filter (· = 0)).map fun _ => .corruptedPage page.number .noChild
  | failed _ => []

end Visit

open Cursor (unseen unseen_insert)

/-- The visits of a walk from `root` over `pages`, where those in `seen` were tried before, and the
pages tried by its end. A page tried before is an error, and nothing below it is walked again. -/
def walk (load : PageNumber → Except Error Bytes) (root : PageNumber) (seen : Seen) :
    List PageNumber → List Visit × { later : Seen // unseen later ≤ unseen seen }
  | [] => ([], ⟨seen, Nat.le_refl _⟩)
  | page :: pages =>
    if tried : seen.contains page then
      let (behind, last) := walk load root seen pages
      (.failed (.corruptedPage page (.reachedTwice root)) :: behind, last)
    else
      have fewer : unseen (seen.insert page) < unseen seen := unseen_insert (by simpa using tried)
      let visit := Visit.of load page
      let (under, later) := walk load root (seen.insert page) visit.below
      let (behind, last) := walk load root later.1 pages
      (visit :: (under ++ behind), ⟨last.1, by omega⟩)
termination_by pages => (unseen seen, pages.length)
decreasing_by
  · exact .right _ (by simp)
  · exact .left _ _ fewer
  · exact .left _ _ (by omega)

/-- The visits of a walk over `pages`. -/
def visits (load : PageNumber → Except Error Bytes) (root : PageNumber) (seen : Seen) (pages : List PageNumber) :
    List Visit := (walk load root seen pages).1

/-- The pages tried by the end of a walk over `pages`. -/
def triedBy (load : PageNumber → Except Error Bytes) (root : PageNumber) (seen : Seen) (pages : List PageNumber) :
    Seen := (walk load root seen pages).2.1

section
variable (load : PageNumber → Except Error Bytes) (root : PageNumber) {seen : Seen} {page : PageNumber}

@[simp] theorem visits_nil : visits load root seen [] = [] := by simp [visits, walk]

@[simp] theorem triedBy_nil : triedBy load root seen [] = seen := by simp [triedBy, walk]

theorem visits_seen (tried : seen.contains page) (pages : List PageNumber) :
    visits load root seen (page :: pages) =
      .failed (.corruptedPage page (.reachedTwice root)) :: visits load root seen pages := by
  rw [visits, walk, dif_pos tried]; rfl

theorem triedBy_seen (tried : seen.contains page) (pages : List PageNumber) :
    triedBy load root seen (page :: pages) = triedBy load root seen pages := by
  rw [triedBy, walk, dif_pos tried]; rfl

theorem visits_fresh (fresh : seen.contains page = false) (pages : List PageNumber) :
    visits load root seen (page :: pages) =
      Visit.of load page :: (visits load root (seen.insert page) (Visit.of load page).below ++
        visits load root (triedBy load root (seen.insert page) (Visit.of load page).below) pages) := by
  rw [visits, walk, dif_neg (by simp [fresh])]; rfl

theorem triedBy_fresh (fresh : seen.contains page = false) (pages : List PageNumber) :
    triedBy load root seen (page :: pages) =
      triedBy load root (triedBy load root (seen.insert page) (Visit.of load page).below) pages := by
  rw [triedBy, walk, dif_neg (by simp [fresh])]; rfl

/-- A walk over two runs of pages is the walk over the first and then over the second, behind which the
first one's pages are seen. -/
theorem visits_append (first second : List PageNumber) :
    visits load root seen (first ++ second) =
      visits load root seen first ++ visits load root (triedBy load root seen first) second := by
  induction first generalizing seen with
  | nil => simp
  | cons page pages ih =>
    by_cases tried : seen.contains page
    · simp only [List.cons_append, visits_seen load root tried, triedBy_seen load root tried, ih]
    · have fresh : seen.contains page = false := by simpa using tried
      simp only [List.cons_append, visits_fresh load root fresh, triedBy_fresh load root fresh, ih,
        List.append_assoc]

/-- A walk over pages that are all different and have nothing below them visits one after the other. -/
theorem visits_of_bottom (seen : Seen) {pages : List PageNumber} (different : pages.Nodup)
    (fresh : ∀ page ∈ pages, seen.contains page = false) (bottom : ∀ page ∈ pages, (Visit.of load page).below = []) :
    visits load root seen pages = pages.map (Visit.of load) := by
  induction pages generalizing seen with
  | nil => simp
  | cons page pages ih =>
    obtain ⟨apart, different⟩ := List.nodup_cons.1 different
    rw [visits_fresh load root (fresh page List.mem_cons_self), bottom page List.mem_cons_self, visits_nil, triedBy_nil,
      List.nil_append, List.map_cons]
    congr 1
    apply ih _ different
    · intro other inside
      have new := fresh other (List.mem_cons_of_mem _ inside)
      have moved : page ≠ other := fun same => apart (same ▸ inside)
      simp [Std.HashSet.contains_insert, new, moved]
    · exact fun other inside => bottom other (List.mem_cons_of_mem _ inside)

end

namespace Cursor
variable (load : PageNumber → Except Error Bytes)

/-- The visits that a walk has still to make. -/
def ahead (cursor : Cursor) : List Visit := visits load cursor.root cursor.seen cursor.stack

/-- The outcomes that a walk has still to give. -/
def left (cursor : Cursor) : List (Except Error LeafCell) :=
  cursor.pending.map .ok ++ (cursor.ahead load).flatMap Visit.outcomes

/-- All that a walk has set aside when it ends. -/
def passed (cursor : Cursor) : List Error := cursor.skipped ++ (cursor.ahead load).flatMap Visit.skipped

/-- The walk behind a visit, apart from the page that is seen now. -/
def behind (cursor : Cursor) (visit : Visit) : Cursor :=
  { cursor with
    stack := visit.below ++ cursor.stack
    pending := cursor.pending ++ visit.rows
    skipped := cursor.skipped ++ visit.skipped }

variable {load} {file : Bytes} {pageSize : Nat} {pager : Pager}

theorem visit_seen (cursor : Cursor) {page : PageNumber} (tried : cursor.seen.contains page) :
    cursor.visit page pager = (.error (.corruptedPage page (.reachedTwice cursor.root)), cursor, pager) := by
  rw [visit, if_pos tried]

/-- A page read for the first time is met as `Visit.of` says. -/
theorem visit_fresh (onFile : pager.Over file pageSize) (cursor : Cursor) {page : PageNumber}
    (fresh : cursor.seen.contains page = false) :
    ∃ pager', pager'.Over file pageSize ∧ cursor.visit page pager =
      (match Visit.of (pageOf file pageSize) page with | .failed error => .error error | _ => .ok (),
        behind { cursor with seen := cursor.seen.insert page } (Visit.of (pageOf file pageSize) page), pager') := by
  obtain ⟨answered, overNext⟩ := Pager.read_over onFile page
  refine ⟨(pager.read page).2, overNext, ?_⟩
  simp only [visit, fresh, Bool.false_eq_true, if_false, answered]
  cases loaded : pageOf file pageSize page with
  | error error => simp [Except.bind, Visit.of, loaded, behind, Visit.below, Visit.rows, Visit.skipped]
  | ok data =>
    cases parsed : Page.read page data with
    | error error => simp [Except.bind, Visit.of, loaded, parsed, behind, Visit.below, Visit.rows, Visit.skipped]
    | ok read =>
      have number := Page.number_of_read parsed
      cases kind : read.kind <;>
        simp [Except.bind, Visit.of, loaded, parsed, enter, kind, behind, Visit.below, Visit.rows, Visit.skipped,
          Page.leafCells_eq, Page.children_eq, number]

/-- Reading the page on top of the stack gives its error at once, and all else later. -/
theorem visit_top (onFile : pager.Over file pageSize) {cursor : Cursor} {page : PageNumber} {stack : List PageNumber}
    (noRows : cursor.pending = []) (top : cursor.stack = page :: stack) :
    (visit { cursor with stack } page pager).2.2.Over file pageSize ∧
      cursor.left (pageOf file pageSize) =
        (match (visit { cursor with stack } page pager).1 with | .error error => [.error error] | .ok () => []) ++
          (visit { cursor with stack } page pager).2.1.left (pageOf file pageSize) ∧
      (visit { cursor with stack } page pager).2.1.passed (pageOf file pageSize) =
        cursor.passed (pageOf file pageSize) := by
  by_cases tried : cursor.seen.contains page
  · rw [visit_seen { cursor with stack } tried]
    refine ⟨onFile, ?_, ?_⟩ <;>
      simp [left, passed, ahead, noRows, top, visits_seen _ _ tried, Visit.outcomes, Visit.skipped]
  · have fresh : cursor.seen.contains page = false := by simpa using tried
    obtain ⟨pager', overNext, met⟩ := visit_fresh onFile { cursor with stack } fresh
    rw [met]
    refine ⟨overNext, ?_, ?_⟩
    · simp only [left, ahead, behind, noRows, top, visits_fresh _ cursor.root fresh, visits_append,
        List.flatMap_cons, List.flatMap_append, List.map_nil, List.nil_append]
      cases Visit.of (pageOf file pageSize) page <;> simp [Visit.outcomes, Visit.rows]
    · simp only [passed, ahead, behind, top, visits_fresh _ cursor.root fresh, visits_append,
        List.flatMap_cons, List.flatMap_append, List.append_assoc]

/-- What a step of a walk leaves to come when it gives `result`: the outcomes without the one given and
the same errors in the end, or nothing at all when there is no row. -/
def Stepped (load : PageNumber → Except Error Bytes) (cursor next : Cursor) :
    Except Error (Option LeafCell) → Prop
  | .ok none => cursor.left load = [] ∧ next.left load = [] ∧ next.skipped = cursor.passed load
  | .ok (some cell) => cursor.left load = .ok cell :: next.left load ∧ next.passed load = cursor.passed load
  | .error error => cursor.left load = .error error :: next.left load ∧ next.passed load = cursor.passed load

theorem Stepped.of_eq {cursor entered next : Cursor} {result : Except Error (Option LeafCell)}
    (stepped : Stepped load entered next result) (sameLeft : cursor.left load = entered.left load)
    (samePassed : entered.passed load = cursor.passed load) : Stepped load cursor next result := by
  rcases result with error | _ | cell <;> simpa [Stepped, sameLeft, samePassed] using stepped

/-- Each step gives the next outcome of the walk over the pages of the file. -/
theorem next_stepped (onFile : pager.Over file pageSize) (cursor : Cursor) :
    (cursor.next pager).2.2.Over file pageSize ∧
      Stepped (pageOf file pageSize) cursor (cursor.next pager).2.1 (cursor.next pager).1 := by
  fun_induction Cursor.next cursor pager with
  | case1 cursor pager cell pending isCons =>
    exact ⟨onFile, by simp [left, isCons, ahead], by simp [passed, ahead]⟩
  | case2 cursor pager noRows noPages =>
    exact ⟨onFile, by simp [left, ahead, noRows, noPages], by simp [left, ahead, noRows, noPages],
      by simp [passed, ahead, noPages]⟩
  | case3 cursor pager noRows page stack top error failed pager' visited =>
    obtain ⟨overNext, sameLeft, samePassed⟩ := visit_top onFile noRows top
    rw [visited] at overNext sameLeft samePassed
    exact ⟨overNext, sameLeft, samePassed⟩
  | case4 cursor pager noRows page stack top entered pager' visited ih =>
    obtain ⟨overNext, sameLeft, samePassed⟩ := visit_top onFile noRows top
    rw [visited] at overNext sameLeft samePassed
    obtain ⟨overEnd, stepped⟩ := ih overNext
    exact ⟨overEnd, stepped.of_eq sameLeft samePassed⟩

/-- Without rows at hand a step reads the page on top of the stack and goes on behind it. -/
theorem next_visit {cursor : Cursor} {page : PageNumber} {stack : List PageNumber}
    (noRows : cursor.pending = []) (top : cursor.stack = page :: stack) (pager : Pager) : cursor.next pager =
      match visit { cursor with stack } page pager with
      | (.error error, last) => (.error error, last)
      | (.ok (), entered, pager) => entered.next pager := by
  rw [next]
  simp only [noRows, top]
  split <;> rename_i visited <;> rw [noRows] at visited <;> simp [visited]

theorem visit_same {pager' : Pager} (onFile : pager.Over file pageSize) (onFile' : pager'.Over file pageSize)
    (cursor : Cursor) (page : PageNumber) :
    (cursor.visit page pager).1 = (cursor.visit page pager').1 ∧
      (cursor.visit page pager).2.1 = (cursor.visit page pager').2.1 ∧
      (cursor.visit page pager).2.2.Over file pageSize ∧ (cursor.visit page pager').2.2.Over file pageSize := by
  by_cases tried : cursor.seen.contains page
  · rw [visit_seen cursor tried, visit_seen cursor tried]
    exact ⟨rfl, rfl, onFile, onFile'⟩
  · have fresh : cursor.seen.contains page = false := by simpa using tried
    obtain ⟨later, overNext, met⟩ := visit_fresh onFile cursor fresh
    obtain ⟨later', overNext', met'⟩ := visit_fresh onFile' cursor fresh
    rw [met, met']
    exact ⟨rfl, rfl, overNext, overNext'⟩

/-- On all pagers over one file a walk takes the same step to the same state. -/
theorem next_same {pager' : Pager} (onFile : pager.Over file pageSize) (onFile' : pager'.Over file pageSize)
    (cursor : Cursor) :
    (cursor.next pager).1 = (cursor.next pager').1 ∧ (cursor.next pager).2.1 = (cursor.next pager').2.1 := by
  fun_induction Cursor.next cursor pager generalizing pager' with
  | case1 cursor pager cell pending isCons => rw [next]; simp [isCons]
  | case2 cursor pager noRows noPages => rw [next]; simp [noRows, noPages]
  | case3 cursor pager noRows page stack top error failed later visited =>
    obtain ⟨sameResult, sameCursor, -, -⟩ := visit_same onFile onFile' { cursor with stack } page
    rw [visited] at sameResult sameCursor
    rw [next_visit noRows top pager']
    rcases met : visit { cursor with stack } page pager' with ⟨result, failed', later'⟩
    rw [met] at sameResult sameCursor
    cases sameResult
    exact ⟨rfl, sameCursor⟩
  | case4 cursor pager noRows page stack top entered later visited ih =>
    obtain ⟨sameResult, sameCursor, overNext, overNext'⟩ := visit_same onFile onFile' { cursor with stack } page
    rw [visited] at sameResult sameCursor overNext
    rw [next_visit noRows top pager']
    rcases met : visit { cursor with stack } page pager' with ⟨result, entered', later'⟩
    rw [met] at sameResult sameCursor overNext'
    cases sameResult
    cases sameCursor
    exact ih overNext overNext'

/-- The outcomes of all further steps of a walk, errors among them, up to the one that gives no row. -/
def drain (cursor : Cursor) (pager : Pager) : List (Except Error LeafCell) × Cursor × Pager :=
  let stepped := cursor.next pager
  match _given : stepped.1 with
  | .ok none => ([], stepped.2)
  | .ok (some cell) =>
    let (rest, final) := drain stepped.2.1 stepped.2.2
    (.ok cell :: rest, final)
  | .error error =>
    let (rest, final) := drain stepped.2.1 stepped.2.2
    (.error error :: rest, final)
termination_by (unseen cursor.seen, cursor.stack.length + cursor.pending.length)
decreasing_by
  all_goals
    have moved : cursor.next pager = (stepped.1, stepped.2.1, stepped.2.2) := rfl
    rcases next_lowers moved (by simp [_given]) with fewer | ⟨same, less⟩
    · exact .left _ _ fewer
    · rw [same]; exact .right _ less

/-- Stepping on to the end gives all outcomes that were left and sets aside all that had to be. -/
theorem drain_eq (onFile : pager.Over file pageSize) (cursor : Cursor) :
    (cursor.drain pager).1 = cursor.left (pageOf file pageSize) ∧
      (cursor.drain pager).2.1.skipped = cursor.passed (pageOf file pageSize) ∧
      (cursor.drain pager).2.2.Over file pageSize := by
  fun_induction drain cursor pager with
  | case1 cursor pager stepped given =>
    obtain ⟨overNext, ended⟩ := next_stepped onFile cursor
    rw [show (cursor.next pager).1 = .ok none from given] at ended
    exact ⟨ended.1.symm, ended.2.2, overNext⟩
  | case2 cursor pager stepped cell given rest final isDrain ih =>
    obtain ⟨overNext, moved⟩ := next_stepped onFile cursor
    rw [show (cursor.next pager).1 = .ok (some cell) from given] at moved
    obtain ⟨sameRest, sameSkipped, overEnd⟩ := ih overNext
    rw [isDrain] at sameRest sameSkipped overEnd
    exact ⟨by rw [moved.1, ← sameRest], sameSkipped.trans moved.2, overEnd⟩
  | case3 cursor pager stepped error given rest final isDrain ih =>
    obtain ⟨overNext, moved⟩ := next_stepped onFile cursor
    rw [show (cursor.next pager).1 = .error error from given] at moved
    obtain ⟨sameRest, sameSkipped, overEnd⟩ := ih overNext
    rw [isDrain] at sameRest sameSkipped overEnd
    exact ⟨by rw [moved.1, ← sameRest], sameSkipped.trans moved.2, overEnd⟩

/-- Feeding the rows to a function is feeding it the outcomes that are left, where an error among them
ends the feeding. -/
theorem fold_eq {β : Type} (onFile : pager.Over file pageSize) (f : β → LeafCell → Except Error β) (state : β)
    (cursor : Cursor) :
    (cursor.fold f state pager).1 =
        (cursor.left (pageOf file pageSize)).foldlM (fun state outcome => outcome.bind (f state)) state ∧
      (∀ last, (cursor.fold f state pager).1 = .ok last →
        (cursor.fold f state pager).2.1.skipped = cursor.passed (pageOf file pageSize)) ∧
      (cursor.fold f state pager).2.2.Over file pageSize := by
  fun_induction fold f state cursor pager with
  | case1 state cursor pager stepped error given =>
    obtain ⟨overNext, moved⟩ := next_stepped onFile cursor
    rw [show (cursor.next pager).1 = .error error from given] at moved
    exact ⟨by simp [moved.1, Except.bind, bind], by simp, overNext⟩
  | case2 state cursor pager stepped given =>
    obtain ⟨overNext, ended⟩ := next_stepped onFile cursor
    rw [show (cursor.next pager).1 = .ok none from given] at ended
    exact ⟨by simp [ended.1, pure, Except.pure], fun _ _ => ended.2.2, overNext⟩
  | case3 state cursor pager stepped cell given error refused =>
    obtain ⟨overNext, moved⟩ := next_stepped onFile cursor
    rw [show (cursor.next pager).1 = .ok (some cell) from given] at moved
    exact ⟨by simp [moved.1, Except.bind, bind, refused], by simp, overNext⟩
  | case4 state cursor pager stepped cell given state' taken ih =>
    obtain ⟨overNext, moved⟩ := next_stepped onFile cursor
    rw [show (cursor.next pager).1 = .ok (some cell) from given] at moved
    obtain ⟨sameResult, sameSkipped, overEnd⟩ := ih overNext
    refine ⟨?_, fun last done => (sameSkipped last done).trans moved.2, overEnd⟩
    rw [moved.1, List.foldlM_cons]
    simpa [Except.bind, bind, taken] using sameResult

@[simp] theorem left_new (load : PageNumber → Except Error Bytes) (root : PageNumber) :
    (new root).left load = (visits load root ∅ [root]).flatMap Visit.outcomes := by simp [left, new, ahead]

@[simp] theorem passed_new (load : PageNumber → Except Error Bytes) (root : PageNumber) :
    (new root).passed load = (visits load root ∅ [root]).flatMap Visit.skipped := by simp [passed, new, ahead]

end Cursor

section
variable {file : Bytes} {pageSize : Nat} {pager : Pager} (onFile : pager.Over file pageSize)
include onFile

/-- What a scan makes of a table: the state behind its last row, unless an outcome of the walk or the
function fails before, and all that the walk passed over. -/
theorem on_foldCells {α : Type} (f : α → LeafCell → Except Error α) (state : α) (root : PageNumber) :
    ((foldCells f state root).on pager).1 =
      (((visits (pageOf file pageSize) root ∅ [root]).flatMap Visit.outcomes).foldlM
        (fun state (outcome : Except Error LeafCell) => outcome.bind (f state)) state).map
          fun last => (last, (visits (pageOf file pageSize) root ∅ [root]).flatMap Visit.skipped) := by
  obtain ⟨result, skipped, -⟩ := Cursor.fold_eq onFile f state (.new root)
  simp only [Cursor.left_new, Cursor.passed_new] at result skipped
  show ((Cursor.new root).fold f state pager).1.map (fun last => (last, _)) = _
  rw [← result]
  cases done : ((Cursor.new root).fold f state pager).1 with
  | error error => rfl
  | ok last => simp [Except.map, skipped last done]

/-- A scan gives all rows of the walk when none of its outcomes is an error, and else the first error. -/
theorem on_scanTable (root : PageNumber) :
    ((scanTable root).on pager).1 =
      (Outcomes.collect ((visits (pageOf file pageSize) root ∅ [root]).flatMap Visit.outcomes)).map
        fun cells => ⟨cells, (visits (pageOf file pageSize) root ∅ [root]).flatMap Visit.skipped⟩ := by
  have folded := on_foldCells onFile (fun cells cell => .ok (cell :: cells)) [] root
  rw [Outcomes.foldlM_cons_eq] at folded
  rw [scanTable, Reading.on_bind]
  rcases stepped : (foldCells (fun cells cell => .ok (cell :: cells)) [] root).on pager with ⟨result, pager'⟩
  rw [stepped] at folded
  subst folded
  cases Outcomes.collect ((visits (pageOf file pageSize) root ∅ [root]).flatMap Visit.outcomes) <;>
    simp [Except.map]

/-- A scan whose walk meets rows alone gives these rows. -/
theorem scanned_of_visits (root : PageNumber) (cells : List LeafCell)
    (outcomes : (visits (pageOf file pageSize) root ∅ [root]).flatMap Visit.outcomes = cells.map .ok)
    (skipped : (visits (pageOf file pageSize) root ∅ [root]).flatMap Visit.skipped = []) :
    ((scanTable root).on pager).1 = .ok ⟨cells, []⟩ := by
  rw [on_scanTable onFile, skipped, (Outcomes.collect_eq_ok_iff _ cells).2 outcomes]
  rfl

end

/-- Every pointer of a leaf gives one row or one error. -/
theorem Visit.length_rows_add_skipped (page : Page) :
    (Visit.leaf page).rows.length + (Visit.leaf page).skipped.length = page.pointers.length := by
  simp [rows, skipped, Outcomes.length_results_add_failures, Page.rowsAt]

/-- Stepping through a table to its end, errors or not, gives what the walk over the pages of the file
meets. A scan succeeds exactly when none of that is an error, with these rows and with all that was passed
over page by page, and otherwise gives the first error. -/
theorem steps_and_scan_follow_walk (file : Bytes) (pageSize : Nat) (root : PageNumber) (keepPages : Bool) :
    let met := visits (pageOf file pageSize) root ∅ [root]
    let pager := Pager.new file pageSize keepPages
    ((Cursor.new root).drain pager).1 = met.flatMap Visit.outcomes ∧
      (∀ cells errors, ((scanTable root).on pager).1 = .ok ⟨cells, errors⟩ ↔
        met.flatMap Visit.outcomes = cells.map .ok ∧ errors = met.flatMap Visit.skipped) ∧
      (∀ error, ((scanTable root).on pager).1 = .error error ↔
        ∃ (cells : List LeafCell) (rest : _), met.flatMap Visit.outcomes = cells.map .ok ++ .error error :: rest) ∧
      ∀ page, .leaf page ∈ met →
        (Visit.leaf page).rows.length + (Visit.leaf page).skipped.length = page.pointers.length := by
  intro met pager
  have onFile : pager.Over file pageSize := Pager.over_new file pageSize keepPages
  refine ⟨?_, ?_, ?_, fun page _ => Visit.length_rows_add_skipped page⟩
  · rw [(Cursor.drain_eq onFile (.new root)).1, Cursor.left_new]
  · intro cells errors
    rw [on_scanTable onFile, ← Outcomes.collect_eq_ok_iff]
    cases Outcomes.collect (met.flatMap Visit.outcomes) <;> simp [Except.map, met, eq_comm]
  · intro error
    rw [on_scanTable onFile, ← Outcomes.collect_eq_error_iff]
    cases Outcomes.collect (met.flatMap Visit.outcomes) <;> simp [Except.map]

end SqliteReader
