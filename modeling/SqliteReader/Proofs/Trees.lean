import Mathlib.Logic.Relation
import SqliteReader.Proofs.Operations

/-!
# The pages of a tree

`InTree` are the pages that a tree reaches from its root. A walk looks at no others (`visits_same`), so a question
is answered alike on two files that have the same pages in the trees it asks about: the catalog, and the tables
that it names.
-/
namespace SqliteReader

namespace Reading
variable {α β : Type} {file file' : Bytes} {pageSize : Nat}

/-- The answer of a reading on a file of which nothing was read before. -/
def answer (reading : Reading α) (file : Bytes) (pageSize : Nat) : Except Error α :=
  (reading.on (.new file pageSize false)).1

theorem ByPages.answer_eq {reading : Reading α} (reads : ByPages reading) {pager : Pager}
    (onFile : pager.Over file pageSize) : (reading.on pager).1 = reading.answer file pageSize :=
  (reads.same onFile (Pager.over_new file pageSize false)).1

/-- The answer of two readings in a row is the second one's on what the first one answers. -/
theorem ByPages.answer_bind {first : Reading α} {second : α → Reading β} (reads : ByPages first)
    (readsNext : ∀ a, ByPages (second a)) : (first >>= second).answer file pageSize =
      (first.answer file pageSize).bind fun a => (second a).answer file pageSize := by
  obtain ⟨-, overNext⟩ := reads.same (Pager.over_new file pageSize false) (Pager.over_new file pageSize false)
  rw [answer, on_bind, answer]
  rcases stepped : first.on (.new file pageSize false) with ⟨error | a, pager⟩
  · rfl
  · rw [stepped] at overNext
    exact (readsNext a).answer_eq overNext

theorem ByPages.answer_map {reading : Reading α} (reads : ByPages reading) (f : α → β) :
    (f <$> reading).answer file pageSize = (reading.answer file pageSize).map f := by
  rw [map_eq_pure_bind, reads.answer_bind fun a => .pure (f a)]
  cases reading.answer file pageSize <;> rfl

/-- Readings one after the other answer what each of them answers, unless one fails. -/
theorem ByPages.answer_mapM {γ : Type} {reading : γ → Reading α} (reads : ∀ c, ByPages (reading c)) (items : List γ) :
    (items.mapM reading).answer file pageSize =
      Outcomes.collect (items.map fun item => (reading item).answer file pageSize) := by
  rw [← Outcomes.mapM_eq_collect]
  induction items with
  | nil => rfl
  | cons item items ih =>
    rw [List.mapM_cons, List.mapM_cons,
      (reads item).answer_bind fun a => (ByPages.mapM reads items).bind fun rest => .pure (a :: rest)]
    cases (reading item).answer file pageSize with
    | error error => rfl
    | ok a =>
      show (items.mapM reading >>= fun rest => Pure.pure (a :: rest)).answer file pageSize = _
      rw [(ByPages.mapM reads items).answer_bind fun rest => .pure (a :: rest), ih]
      rfl

/-- The reading is answered alike on both files. -/
def Alike (file file' : Bytes) (pageSize : Nat) (reading : Reading α) : Prop :=
  reading.answer file' pageSize = reading.answer file pageSize

/-- Readings that are answered alike are so on all pagers over the two files. -/
theorem Alike.on_eq {reading : Reading α} (alike : Alike file file' pageSize reading) (reads : ByPages reading)
    {pager pager' : Pager} (onFile : pager.Over file pageSize) (onFile' : pager'.Over file' pageSize) :
    (reading.on pager').1 = (reading.on pager).1 := by
  rw [reads.answer_eq onFile, reads.answer_eq onFile', alike]

theorem Alike.of_on {reading reading' : Reading α} (alike : Alike file file' pageSize reading)
    (same : ∀ pager, reading'.on pager = reading.on pager) : Alike file file' pageSize reading' := by
  rw [Alike, answer, answer, same, same]
  exact alike

theorem Alike.withSize {next : Nat → Reading α} (alike : Alike file file' pageSize (next pageSize)) :
    Alike file file' pageSize (withSize next) := alike

theorem Alike.bind {first : Reading α} {second : α → Reading β} (reads : ByPages first)
    (readsNext : ∀ a, ByPages (second a)) (alike : Alike file file' pageSize first)
    (alikeNext : ∀ a, first.answer file pageSize = .ok a → Alike file file' pageSize (second a)) :
    Alike file file' pageSize (first >>= second) := by
  rw [Alike, reads.answer_bind readsNext, reads.answer_bind readsNext, alike]
  cases answered : first.answer file pageSize with
  | error error => rfl
  | ok a => exact alikeNext a answered

theorem Alike.pure (a : α) : Alike file file' pageSize (pure a : Reading α) := rfl

theorem Alike.throw (error : Error) : Alike file file' pageSize (throw error : Reading α) := rfl

theorem Alike.ofExcept (result : Except Error α) :
    Alike file file' pageSize (MonadExcept.ofExcept result : Reading α) := by
  cases result <;> rfl

theorem Alike.map {reading : Reading α} (reads : ByPages reading) (alike : Alike file file' pageSize reading)
    (f : α → β) : Alike file file' pageSize (f <$> reading) := by
  rw [map_eq_pure_bind]
  exact .bind reads (fun a => .pure (f a)) alike fun a _ => .pure (f a)

theorem Alike.mapM {γ : Type} {reading : γ → Reading α} (reads : ∀ c, ByPages (reading c)) {items : List γ}
    (alike : ∀ item ∈ items, Alike file file' pageSize (reading item)) :
    Alike file file' pageSize (items.mapM reading) := by
  induction items with
  | nil => exact .pure []
  | cons item items ih =>
    rw [List.mapM_cons]
    refine .bind (reads item) (fun a => (ByPages.mapM reads items).bind fun rest => .pure (a :: rest))
      (alike item List.mem_cons_self) fun a _ => ?_
    exact .bind (ByPages.mapM reads items) (fun rest => .pure (a :: rest))
      (ih fun other inside => alike other (List.mem_cons_of_mem _ inside)) fun rest _ => .pure (a :: rest)

end Reading

/-- The pages that a tree reaches from its root: the root itself, and what an interior page names as its
children. -/
def InTree (load : PageNumber → Except Error Bytes) : (root page : PageNumber) → Prop :=
  Relation.ReflTransGen fun page child => child ∈ (Visit.of load page).below

open Cursor (unseen unseen_insert)

/-- A walk looks only at the pages below those it starts from. -/
theorem visits_same {load load' : PageNumber → Except Error Bytes} (root : PageNumber) {P : PageNumber → Prop}
    (closed : ∀ page, P page → ∀ child ∈ (Visit.of load page).below, P child)
    (same : ∀ page, P page → load' page = load page) (seen : Seen) (pages : List PageNumber)
    (inside : ∀ page ∈ pages, P page) :
    visits load' root seen pages = visits load root seen pages ∧
      triedBy load' root seen pages = triedBy load root seen pages := by
  match pages with
  | [] => simp
  | page :: pages =>
    have here : P page := inside page List.mem_cons_self
    have behind : ∀ other ∈ pages, P other := fun other among => inside other (List.mem_cons_of_mem _ among)
    by_cases tried : seen.contains page
    · obtain ⟨sameVisits, sameTried⟩ := visits_same root closed same seen pages behind
      simp only [visits_seen _ _ tried, triedBy_seen _ _ tried, sameVisits, sameTried, and_self]
    · have fresh : seen.contains page = false := by simpa using tried
      have met : Visit.of load' page = Visit.of load page := by rw [Visit.of, Visit.of, same page here]
      have fewer : unseen (seen.insert page) < unseen seen := unseen_insert fresh
      obtain ⟨sameUnder, sameUnderTried⟩ :=
        visits_same root closed same (seen.insert page) (Visit.of load page).below (closed page here)
      have fewerBehind : unseen (triedBy load root (seen.insert page) (Visit.of load page).below) < unseen seen :=
        Nat.lt_of_le_of_lt (walk load root (seen.insert page) (Visit.of load page).below).2.2 fewer
      obtain ⟨sameBehind, sameBehindTried⟩ := visits_same root closed same
        (triedBy load root (seen.insert page) (Visit.of load page).below) pages behind
      simp only [visits_fresh _ _ fresh, triedBy_fresh _ _ fresh, met, sameUnder, sameUnderTried, sameBehind,
        sameBehindTried, and_self]
termination_by (unseen seen, pages.length)
decreasing_by
  · exact .right _ (by simp)
  · exact .left _ _ fewer
  · exact .left _ _ fewerBehind

open Reading

section
variable (file file' : Bytes) (pageSize : Nat)

/-- The two files have the same pages in the tree of `root`. -/
def SameTree (root : PageNumber) : Prop :=
  ∀ page, InTree (pageOf file pageSize) root page → pageOf file' pageSize page = pageOf file pageSize page

variable {file file' pageSize}

theorem foldCells_alike {β : Type} (f : β → LeafCell → Except Error β) (state : β) {root : PageNumber}
    (tree : SameTree file file' pageSize root) : Alike file file' pageSize (foldCells f state root) := by
  obtain ⟨sameVisits, -⟩ := visits_same root (P := InTree (pageOf file pageSize) root)
    (fun page here child below => here.tail below) tree ∅ [root] (by simp [InTree, Relation.ReflTransGen.refl])
  rw [Alike, answer, answer, on_foldCells (Pager.over_new file' pageSize false),
    on_foldCells (Pager.over_new file pageSize false), sameVisits]

theorem foldRecords_alike {β : Type} (f : β → Record → Except Error β) (state : β) {root : PageNumber}
    (tree : SameTree file file' pageSize root) : Alike file file' pageSize (foldRecords f state root) :=
  foldCells_alike _ state tree

theorem scanTable_alike {root : PageNumber} (tree : SameTree file file' pageSize root) :
    Alike file file' pageSize (scanTable root) :=
  .bind (foldCells_byPages _ [] root) (fun _ => .pure _) (foldCells_alike _ [] tree) fun _ _ => .pure _

namespace Catalog
variable (catalog : SameTree file file' pageSize catalogRoot)
include catalog

theorem entries_alike : Alike file file' pageSize entries :=
  .bind (scanTable_byPages catalogRoot) (fun _ => .pure _) (scanTable_alike catalog) fun _ _ => .pure _

theorem findTable_alike (name : String) : Alike file file' pageSize (findTable name) := by
  unfold findTable
  split
  · exact .pure _
  · refine .bind entries_byPages (fun read => ?_) (entries_alike catalog) fun read _ => ?_
    · split
      · exact .pure _
      · exact .throw _
    · split
      · exact .pure _
      · exact .throw _

theorem findSchema_alike [Sql.Dialect] (name : String) : Alike file file' pageSize (findSchema name) := by
  unfold findSchema
  split
  · exact .pure _
  · exact .bind (findTable_byPages name) (fun (root, sql) => .ofExcept (schemaOf name root sql))
      (findTable_alike catalog name) fun (root, sql) _ => .ofExcept (schemaOf name root sql)

theorem tableNames_alike : Alike file file' pageSize tableNames :=
  .bind entries_byPages (fun _ => .pure _) (entries_alike catalog) fun _ _ => .pure _

end Catalog

/-- The schema of a table names the root page at which the table is found. -/
theorem Catalog.findTable_of_findSchema [Sql.Dialect] {name : String} {schema : TableSchema}
    (found : (findSchema name).answer file pageSize = .ok schema) :
    ∃ sql, (findTable name).answer file pageSize = .ok (schema.rootPage, sql) := by
  unfold findSchema at found
  split at found
  · rename_i own
    cases found
    exact ⟨"", by rw [findTable, if_pos own]; rfl⟩
  · rw [(findTable_byPages name).answer_bind fun (root, sql) => .ofExcept (schemaOf name root sql)] at found
    obtain ⟨⟨root, sql⟩, table, found⟩ := Outcomes.ok_of_bind found
    refine ⟨sql, table.trans ?_⟩
    rw [answer, on_ofExcept] at found
    simp only [schemaOf] at found
    split at found
    · cases found
      rfl
    · cases found

namespace Request

/-- The pages in the trees of the tables that a request names, as far as the catalog has them. -/
def Reaches (request : Request) (file : Bytes) (pageSize : Nat) (page : PageNumber) : Prop :=
  ∃ table ∈ request.tables, ∃ root sql, (Catalog.findTable table.name).answer file pageSize = .ok (root, sql) ∧
    InTree (pageOf file pageSize) root page

variable [Sql.Dialect] (catalog : SameTree file file' pageSize catalogRoot)
include catalog

theorem readTable_alike (select : TableRef → TableSchema → Except Error Selection) {table : TableRef}
    (tree : ∀ root sql, (Catalog.findTable table.name).answer file pageSize = .ok (root, sql) →
      SameTree file file' pageSize root) : Alike file file' pageSize (readTable select table) := by
  refine .bind (Catalog.findSchema_byPages table.name) (fun schema => (ByPages.ofExcept (select table schema)).bind
    fun _ => (foldRecords_byPages _ [] schema.rootPage).bind fun _ => .pure _)
    (Catalog.findSchema_alike catalog table.name) fun schema found => ?_
  obtain ⟨sql, root⟩ := Catalog.findTable_of_findSchema found
  refine .bind (.ofExcept _) (fun _ => (foldRecords_byPages _ [] schema.rootPage).bind fun _ => .pure _)
    (.ofExcept _) fun selection _ => ?_
  exact .bind (foldRecords_byPages _ [] schema.rootPage) (fun _ => .pure _)
    (foldRecords_alike _ [] (tree _ sql root)) fun _ _ => .pure _

theorem countTable_alike {table : TableRef}
    (tree : ∀ root sql, (Catalog.findTable table.name).answer file pageSize = .ok (root, sql) →
      SameTree file file' pageSize root) : Alike file file' pageSize (countTable table) := by
  refine .bind (Catalog.findSchema_byPages table.name) (fun schema => foldRecords_byPages _ 0 schema.rootPage)
    (Catalog.findSchema_alike catalog table.name) fun schema found => ?_
  obtain ⟨sql, root⟩ := Catalog.findTable_of_findSchema found
  exact foldRecords_alike _ 0 (tree _ sql root)

theorem execute_alike {request : Request}
    (tables : ∀ page, request.Reaches file pageSize page → pageOf file' pageSize page = pageOf file pageSize page) :
    Alike file file' pageSize request.execute := by
  have tree (table : TableRef) (named : table ∈ request.tables) (root : PageNumber) (sql : String)
      (found : (Catalog.findTable table.name).answer file pageSize = .ok (root, sql)) :
      SameTree file file' pageSize root :=
    fun page inside => tables page ⟨table, named, root, sql, found, inside⟩
  have rows (select : TableRef → TableSchema → Except Error Selection) :
      Alike file file' pageSize (read select request.tables) :=
    .map (ByPages.mapM (readTable_byPages select) request.tables)
      (.mapM (readTable_byPages select) fun table named => readTable_alike catalog select (tree table named)) _
  rw [execute_eq]
  split
  · exact .throw _
  · split
    · exact rows _
    · exact rows _
    · split
      · exact .bind (ByPages.mapM countTable_byPages request.tables) (fun _ => .pure _)
          (.mapM countTable_byPages fun table named => countTable_alike catalog (tree table named)) fun _ _ => .pure _
      · exact .throw _

theorem executeSql_alike {text : String}
    (tables : ∀ request page, ofSql text = .ok request → request.Reaches file pageSize page →
      pageOf file' pageSize page = pageOf file pageSize page) : Alike file file' pageSize (executeSql text) := by
  unfold executeSql
  split
  · rename_i request planned
    exact execute_alike catalog fun page reached => tables request page planned reached
  · exact .throw _

end Request

/-- The pages in the trees of the tables that a command names, apart from the catalog. -/
def Command.Reaches [Sql.Dialect] (file : Bytes) (pageSize : Nat) (page : PageNumber) : Command → Prop
  | .sql text => ∃ request, Request.ofSql text = .ok request ∧ request.Reaches file pageSize page
  | .databaseInfo | .tables | .schema => False

theorem Command.execute_alike [Sql.Dialect] (catalog : SameTree file file' pageSize catalogRoot) {command : Command}
    (tables : ∀ page, command.Reaches file pageSize page → pageOf file' pageSize page = pageOf file pageSize page) :
    Alike file file' pageSize command.execute := by
  cases command with
  | databaseInfo =>
    refine .of_on (.withSize ?_) Command.on_databaseInfo
    exact .bind Catalog.entries_byPages (fun _ => .pure _) (Catalog.entries_alike catalog) fun _ _ => .pure _
  | tables => exact .bind Catalog.tableNames_byPages (fun _ => .pure _) (Catalog.tableNames_alike catalog) fun _ _ => .pure _
  | schema => exact .bind Catalog.entries_byPages (fun _ => .pure _) (Catalog.entries_alike catalog) fun _ _ => .pure _
  | sql text =>
    have answered : Alike file file' pageSize (Request.executeSql text) :=
      Request.executeSql_alike catalog fun request page planned reached => tables page ⟨request, planned, reached⟩
    exact .bind (Request.executeSql_byPages text) (fun _ => .pure _) answered fun _ _ => .pure _

end
end SqliteReader
