import SqliteReader.Command
import SqliteReader.Proofs.Walk

/-!
# What operations use of a pager

Every operation on an open database, from scanning a table to carrying out a command, uses its pager for
pages alone (`Reading.ByPages`).
-/
namespace SqliteReader
open Reading

namespace Cursor
variable {β : Type} (f : β → LeafCell → Except Error β) (state : β)

/-- A fold goes by what its next step gives. -/
theorem fold_of_next (cursor : Cursor) (pager : Pager) : cursor.fold f state pager =
    match cursor.next pager with
    | (.error error, last) => (.error error, last)
    | (.ok none, last) => (.ok state, last)
    | (.ok (some cell), next, pager) =>
      match f state cell with
      | .error error => (.error error, next, pager)
      | .ok state => next.fold f state pager := by
  rw [fold]
  rcases cursor.next pager with ⟨error | _ | cell, next, pager'⟩ <;> rfl

/-- A fold from `cursor` as a reading. -/
def scanFrom (cursor : Cursor) : Reading (β × List Error) := fun pager =>
  let (result, cursor, pager) := cursor.fold f state pager
  (result.map fun state => (state, cursor.skipped), pager)

theorem on_scanFrom (cursor : Cursor) (pager : Pager) : (cursor.scanFrom f state).on pager =
    ((cursor.fold f state pager).1.map fun last => (last, (cursor.fold f state pager).2.1.skipped),
      (cursor.fold f state pager).2.2) := rfl

theorem on_scanFrom_row {cursor : Cursor} {cell : LeafCell} {rest : List LeafCell}
    (row : cursor.pending = cell :: rest) (pager : Pager) : (cursor.scanFrom f state).on pager =
      match f state cell with
      | .error error => (.error error, pager)
      | .ok state => (scanFrom f state { cursor with pending := rest }).on pager := by
  have given : cursor.next pager = (.ok (some cell), { cursor with pending := rest }, pager) := by
    rw [next]; simp [row]
  rw [on_scanFrom, fold_of_next, given]
  cases taken : f state cell <;> simp [taken, Except.map, on_scanFrom]

theorem on_scanFrom_end {cursor : Cursor} (noRows : cursor.pending = []) (noPages : cursor.stack = [])
    (pager : Pager) : (cursor.scanFrom f state).on pager = (.ok (state, cursor.skipped), pager) := by
  have given : cursor.next pager = (.ok none, cursor, pager) := by
    rw [next]; simp [noRows, noPages]
  rw [on_scanFrom, fold_of_next, given]
  rfl

theorem on_scanFrom_visit {cursor : Cursor} {page : PageNumber} {stack : List PageNumber}
    (noRows : cursor.pending = []) (top : cursor.stack = page :: stack) (pager : Pager) :
    (cursor.scanFrom f state).on pager =
      match visit { cursor with stack } page pager with
      | (.error error, last) => (.error error, last.2)
      | (.ok (), entered, pager) => (entered.scanFrom f state).on pager := by
  have folded : cursor.fold f state pager = match visit { cursor with stack } page pager with
      | (.error error, last) => (.error error, last)
      | (.ok (), entered, pager) => entered.fold f state pager := by
    rw [fold_of_next, next_visit noRows top]
    rcases visit { cursor with stack } page pager with ⟨error | _, entered, pager'⟩
    · rfl
    · exact (fold_of_next f state entered pager').symm
  rw [on_scanFrom, folded]
  rcases visit { cursor with stack } page pager with ⟨error | _, entered, pager'⟩ <;> rfl

/-- What a scan makes of a page that it tries for the first time. -/
def scanInto (cursor : Cursor) (page : PageNumber) (stack : List PageNumber) (data : Bytes) :
    Reading (β × List Error) :=
  match (Page.read page data).bind (enter { cursor with stack, seen := cursor.seen.insert page }) with
  | .error error => throw error
  | .ok entered => entered.scanFrom f state

theorem on_scanFrom_fresh {cursor : Cursor} {page : PageNumber} {stack : List PageNumber}
    (noRows : cursor.pending = []) (top : cursor.stack = page :: stack) (fresh : ¬ cursor.seen.contains page)
    (pager : Pager) : (cursor.scanFrom f state).on pager =
      (withPage page (scanInto f state cursor page stack)).on pager := by
  rw [on_scanFrom_visit f state noRows top, on_withPage, visit, if_neg fresh]
  rcases pager.read page with ⟨error | data, pager'⟩
  · rfl
  · simp only [Except.bind.eq_2, scanInto]
    cases (Page.read page data).bind (enter { cursor with stack, seen := cursor.seen.insert page }) <;> rfl

/-- A scan reads pages one by one, each the first time that it is on top of the stack. -/
theorem scanFrom_byPages (state : β) (cursor : Cursor) : ByPages (cursor.scanFrom f state) := by
  match row : cursor.pending, top : cursor.stack with
  | cell :: rest, stack =>
    cases taken : f state cell with
    | error error =>
      refine (ByPages.done (.error error)).of_on fun pager => ?_
      rw [on_scanFrom_row f state row, taken]
      rfl
    | ok state' =>
      refine (scanFrom_byPages state' { cursor with pending := rest }).of_on fun pager => ?_
      rw [on_scanFrom_row f state row, taken]
  | [], [] =>
    exact (ByPages.done (.ok (state, cursor.skipped))).of_on fun pager => on_scanFrom_end f state row top pager
  | [], page :: stack =>
    by_cases tried : cursor.seen.contains page
    · refine (ByPages.done (.error (.corruptedPage page (.reachedTwice cursor.root)))).of_on fun pager => ?_
      rw [on_scanFrom_visit f state row top, visit_seen { cursor with stack } tried]
      rfl
    · refine (ByPages.page page (scanInto f state cursor page stack) fun data => ?_).of_on
        (on_scanFrom_fresh f state row top tried)
      unfold scanInto
      cases read : (Page.read page data).bind (enter { cursor with stack, seen := cursor.seen.insert page }) with
      | error error => exact .throw error
      | ok entered =>
        have fewer : unseen entered.seen < unseen cursor.seen := by
          obtain ⟨_, _, entering⟩ := Outcomes.ok_of_bind read
          rw [enter_seen entering]
          exact unseen_insert (by simpa using tried)
        exact scanFrom_byPages state entered
termination_by (unseen cursor.seen, cursor.stack.length + cursor.pending.length)
decreasing_by
  · exact .right _ (by simp [row])
  · exact .left _ _ fewer

end Cursor

theorem foldCells_byPages {β : Type} (f : β → LeafCell → Except Error β) (state : β) (root : PageNumber) :
    ByPages (foldCells f state root) :=
  Cursor.scanFrom_byPages f state (.new root)

theorem foldRecords_byPages {β : Type} (f : β → Record → Except Error β) (state : β) (root : PageNumber) :
    ByPages (foldRecords f state root) :=
  foldCells_byPages _ state root

theorem scanTable_byPages (root : PageNumber) : ByPages (scanTable root) :=
  (foldCells_byPages _ [] root).bind fun _ => .pure _

namespace Catalog

theorem entries_byPages : ByPages entries := (scanTable_byPages catalogRoot).bind fun _ => .pure _

theorem findTable_byPages (name : String) : ByPages (findTable name) := by
  unfold findTable
  split
  · exact .pure _
  · refine entries_byPages.bind fun read => ?_
    split
    · exact .pure _
    · exact .throw _

theorem findSchema_byPages [Sql.Dialect] (name : String) : ByPages (findSchema name) := by
  unfold findSchema
  split
  · exact .pure _
  · exact (findTable_byPages name).bind fun (root, sql) => .ofExcept (schemaOf name root sql)

theorem tableNames_byPages : ByPages tableNames := entries_byPages.bind fun _ => .pure _

end Catalog

namespace Request
variable [Sql.Dialect]

theorem readTable_byPages (select : TableRef → TableSchema → Except Error Selection) (table : TableRef) :
    ByPages (readTable select table) :=
  (Catalog.findSchema_byPages table.name).bind fun schema => (ByPages.ofExcept (select table schema)).bind fun _ =>
    (foldRecords_byPages _ [] schema.rootPage).bind fun _ => .pure _

theorem countTable_byPages (table : TableRef) : ByPages (countTable table) :=
  (Catalog.findSchema_byPages table.name).bind fun schema => foldRecords_byPages _ 0 schema.rootPage

theorem count_byPages (tables : List TableRef) : ByPages (count tables) :=
  (ByPages.mapM countTable_byPages tables).bind fun _ => .pure _

theorem read_byPages (select : TableRef → TableSchema → Except Error Selection) (tables : List TableRef) :
    ByPages (read select tables) :=
  (ByPages.mapM (readTable_byPages select) tables).map ResultSet.concat

/-- A request that names no table fails, and any other is answered by its projection. -/
theorem execute_eq (request : Request) : request.execute =
    if request.tables.isEmpty then throw .noTable
    else match request.projection with
      | .wildcard => read (fun _ schema => .ok (.all schema)) request.tables
      | .columns columns => read (fun table schema => Selection.ofColumns request table schema columns) request.tables
      | .aggregate function =>
        if function = .countStar then count request.tables
        else throw (.unsupportedQuery (.aggregate function.label)) := by
  unfold execute
  cases request.projection <;> cases request.tables.isEmpty <;> rfl

theorem execute_byPages (request : Request) : ByPages request.execute := by
  rw [execute_eq]
  split
  · exact .throw _
  · split
    · exact read_byPages _ _
    · exact read_byPages _ _
    · split
      · exact count_byPages _
      · exact .throw _

theorem executeSql_byPages (text : String) : ByPages (executeSql text) := by
  unfold executeSql
  split
  · exact execute_byPages _
  · exact .throw _

end Request

/-- The page size and the length of the catalog, as a reading that looks at the page size first. -/
theorem Command.on_databaseInfo [Sql.Dialect] (pager : Pager) : Command.databaseInfo.execute.on pager =
    (withSize fun size => Catalog.entries >>= fun read => Pure.pure
      s!"database page size: {size}\nnumber of tables: {read.results.length}").on pager := rfl

theorem Command.execute_byPages [Sql.Dialect] (command : Command) : ByPages command.execute := by
  cases command with
  | databaseInfo =>
    exact (ByPages.size _ fun _ => Catalog.entries_byPages.bind fun _ => .pure _).of_on on_databaseInfo
  | tables => exact Catalog.tableNames_byPages.bind fun _ => .pure _
  | schema => exact Catalog.entries_byPages.bind fun _ => .pure _
  | sql text => exact (Request.executeSql_byPages text).bind fun _ => .pure _

end SqliteReader
