import SqliteReader.Proofs.FileHeader
import SqliteReader.Proofs.Trees

/-!
# Rows in order

A walk never looks at the keys of interior pages. In a well-formed table b-tree it meets the pages from left to right,
each before those below it (`Forest.walked`), and the keys of an interior page keep the rows below its children apart
(`Divides.ascending_flatten`). So a scan gives every row of every leaf once, in ascending order (`scan_ascending`).
-/
namespace SqliteReader

/-- Rows whose row ids ascend strictly, as signed numbers. -/
def Ascending (cells : List LeafCell) : Prop := cells.Pairwise fun cell later => cell.rowId < later.rowId

instance (cells : List LeafCell) : Decidable (Ascending cells) := inferInstanceAs (Decidable (List.Pairwise _ cells))

/-- Keys that divide the rows below the children of an interior page, one list of rows for each child: the keys ascend
strictly, no row is greater than the key of its child, and every row is greater than the key before. -/
structure Divides (keys : List RowId) (rows : List (List LeafCell)) : Prop where
  ascending : keys.Pairwise (· < ·)
  most : ∀ (i : Nat) (key : RowId) (cells : List LeafCell), keys[i]? = some key → rows[i]? = some cells →
    ∀ cell ∈ cells, cell.rowId ≤ key
  least : ∀ (i : Nat) (key : RowId) (cells : List LeafCell), keys[i]? = some key → rows[i + 1]? = some cells →
    ∀ cell ∈ cells, key < cell.rowId

/-- Well-formed b-trees side by side, with the pages of all of them from left to right, each page before those below
it, and the rows of each of them. The rows of a leaf ascend, and the keys of an interior page divide the rows below
its children. -/
inductive Forest (load : PageNumber → Except Error Bytes) :
    (roots pages : List PageNumber) → (rows : List (List LeafCell)) → Prop
  | nil : Forest load [] [] []
  | leaf {root : PageNumber} {roots pages : List PageNumber} {rows : List (List LeafCell)} {page : Page}
      {cells : List LeafCell} (met : Visit.of load root = .leaf page) (readable : page.rowsAt = cells.map .ok)
      (ascending : Ascending cells) (rest : Forest load roots pages rows) :
      Forest load (root :: roots) (root :: pages) (cells :: rows)
  | interior {root : PageNumber} {roots pages inside : List PageNumber} {rows below : List (List LeafCell)} {page : Page}
      {cells : List InteriorCell} (met : Visit.of load root = .interior page) (readable : page.childrenAt = cells.map .ok)
      (under : Forest load page.named inside below) (divides : Divides (cells.map InteriorCell.key) below)
      (rest : Forest load roots pages rows) :
      Forest load (root :: roots) (root :: (inside ++ pages)) (below.flatten :: rows)

/-- A well-formed b-tree that uses no page twice. -/
structure TableTree (load : PageNumber → Except Error Bytes) (root : PageNumber) (pages : List PageNumber)
    (cells : List LeafCell) : Prop where
  forest : Forest load [root] pages [cells]
  once : pages.Nodup

/-- Lists of rows that keys divide, with a key between any two, ascend one behind the other. -/
theorem Divides.ascending_flatten {keys : List RowId} {rows : List (List LeafCell)} (divides : Divides keys rows)
    (enough : rows.length ≤ keys.length + 1) (each : ∀ cells ∈ rows, Ascending cells) : Ascending rows.flatten := by
  refine List.pairwise_flatten.2 ⟨each, List.pairwise_iff_getElem.2 fun i j inside inside' before => ?_⟩
  intro cell here later behind
  have here : cell.rowId ≤ keys[i] :=
    divides.most i keys[i] rows[i] (List.getElem?_eq_getElem _) (List.getElem?_eq_getElem _) cell here
  have last : keys[j - 1] < later.rowId := by
    refine divides.least (j - 1) keys[j - 1] rows[j] (List.getElem?_eq_getElem _) ?_ later behind
    rw [Nat.sub_add_cancel (by omega)]
    exact List.getElem?_eq_getElem _
  rcases Nat.lt_or_eq_of_le (show i ≤ j - 1 by omega) with between | same
  · have keysAscend := List.pairwise_iff_getElem.1 divides.ascending i (j - 1) (by omega) (by omega) between
    exact Int64.lt_trans (Int64.lt_of_le_of_lt here keysAscend) last
  · simp only [← same] at last
    exact Int64.lt_of_le_of_lt here last

namespace Forest
variable {load : PageNumber → Except Error Bytes} {roots pages : List PageNumber} {rows : List (List LeafCell)}

theorem length_rows (forest : Forest load roots pages rows) : rows.length = roots.length := by
  induction forest with
  | nil => rfl
  | leaf _ _ _ _ ih => rw [List.length_cons, List.length_cons, ih]
  | interior _ _ _ _ _ _ ih => rw [List.length_cons, List.length_cons, ih]

/-- The rows of each tree ascend. -/
theorem ascending (forest : Forest load roots pages rows) : ∀ cells ∈ rows, Ascending cells := by
  induction forest with
  | nil => simp
  | leaf _ _ ascending _ ih => exact List.forall_mem_cons.2 ⟨ascending, ih⟩
  | @interior _ _ _ _ _ below page cells _ readable under divides _ each ih =>
    refine List.forall_mem_cons.2 ⟨divides.ascending_flatten ?_ each, ih⟩
    have last : page.header.rightMost.toList.length ≤ 1 := by cases page.header.rightMost <;> simp
    rw [under.length_rows, Page.named, readable, Outcomes.results_map_ok]
    simp only [List.length_append, List.length_map]
    omega

/-- The rows of the trees are those that are read at their pages, one page after the other. -/
theorem rows_eq (forest : Forest load roots pages rows) :
    rows.flatten = pages.flatMap fun page => (Visit.of load page).rows := by
  induction forest with
  | nil => rfl
  | leaf met readable _ _ ih =>
    rw [List.flatten_cons, List.flatMap_cons, ih, met, Visit.rows, readable, Outcomes.results_map_ok]
  | interior met _ _ _ _ under rest =>
    rw [List.flatten_cons, List.flatMap_cons, List.flatMap_append, under, rest, met, Visit.rows, List.nil_append]

/-- The pages of the trees give their rows, and no error. -/
theorem outcomes_eq (forest : Forest load roots pages rows) :
    (pages.map (Visit.of load)).flatMap Visit.outcomes = rows.flatten.map .ok := by
  induction forest with
  | nil => rfl
  | leaf met readable _ _ ih =>
    rw [List.map_cons, List.flatMap_cons, ih, met, Visit.outcomes, Visit.rows, readable, Outcomes.results_map_ok,
      List.flatten_cons, List.map_append]
    exact fun _ same => Visit.noConfusion same
  | interior met _ _ _ _ under rest =>
    rw [List.map_cons, List.map_append, List.flatMap_cons, List.flatMap_append, under, rest, met, List.flatten_cons,
      List.map_append]
    rfl

end Forest

namespace Forest
variable {file : Bytes} {pageSize : Nat} {roots pages : List PageNumber} {rows : List (List LeafCell)}

/-- No page has the number zero. -/
theorem nonzero (forest : Forest (pageOf file pageSize) roots pages rows) : ∀ root ∈ roots, root ≠ 0 := by
  have failed : Visit.of (pageOf file pageSize) 0 = .failed (.outOfBounds .pageNumber 0 0) := rfl
  induction forest with
  | nil => simp
  | leaf met _ _ _ ih =>
    refine List.forall_mem_cons.2 ⟨?_, ih⟩
    rintro rfl
    rw [failed] at met
    cases met
  | interior met _ _ _ _ _ ih =>
    refine List.forall_mem_cons.2 ⟨?_, ih⟩
    rintro rfl
    rw [failed] at met
    cases met

/-- The children of an interior page are all walked. -/
theorem below_eq {page : Page} {inside : List PageNumber} {below : List (List LeafCell)}
    (under : Forest (pageOf file pageSize) page.named inside below) : (Visit.interior page).below = page.named := by
  refine List.filter_eq_self.2 fun child named => ?_
  simpa using under.nonzero child named

/-- Nothing is passed over in the trees. -/
theorem skipped_eq (forest : Forest (pageOf file pageSize) roots pages rows) :
    (pages.map (Visit.of (pageOf file pageSize))).flatMap Visit.skipped = [] := by
  induction forest with
  | nil => rfl
  | leaf met readable _ _ ih =>
    rw [List.map_cons, List.flatMap_cons, ih, met, Visit.skipped, readable, Outcomes.failures_map_ok, List.append_nil]
  | @interior _ _ _ _ _ _ page _ met readable under _ _ below rest =>
    have noZero : page.named.filter (· = 0) = [] := by
      refine List.filter_eq_nil_iff.2 fun child named => ?_
      simpa using under.nonzero child named
    rw [List.map_cons, List.map_append, List.flatMap_cons, List.flatMap_append, below, rest, met, Visit.skipped, readable,
      Outcomes.failures_map_ok, noZero]
    rfl

/-- Every page of the trees is reached from one of the roots. -/
theorem reached (forest : Forest (pageOf file pageSize) roots pages rows) :
    ∀ page ∈ pages, ∃ root ∈ roots, InTree (pageOf file pageSize) root page := by
  induction forest with
  | nil => simp
  | leaf _ _ _ _ ih =>
    refine List.forall_mem_cons.2 ⟨⟨_, List.mem_cons_self, .refl⟩, fun other among => ?_⟩
    obtain ⟨root, here, inside⟩ := ih other among
    exact ⟨root, List.mem_cons_of_mem _ here, inside⟩
  | @interior number _ _ _ _ _ page _ met _ under _ _ ihUnder ih =>
    refine List.forall_mem_cons.2 ⟨⟨_, List.mem_cons_self, .refl⟩, fun other among => ?_⟩
    rcases List.mem_append.1 among with inside | behind
    · obtain ⟨child, named, inside⟩ := ihUnder other inside
      have step : child ∈ (Visit.of (pageOf file pageSize) number).below := by rwa [met, below_eq under]
      exact ⟨number, List.mem_cons_self, .head step inside⟩
    · obtain ⟨root, here, inside⟩ := ih other behind
      exact ⟨root, List.mem_cons_of_mem _ here, inside⟩

/-- The trees have all pages that they name. -/
theorem closed (forest : Forest (pageOf file pageSize) roots pages rows) :
    (∀ root ∈ roots, root ∈ pages) ∧
      ∀ page ∈ pages, ∀ child ∈ (Visit.of (pageOf file pageSize) page).below, child ∈ pages := by
  induction forest with
  | nil => simp
  | leaf met _ _ _ ih =>
    obtain ⟨rootsIn, childrenIn⟩ := ih
    refine ⟨List.forall_mem_cons.2 ⟨List.mem_cons_self, fun root here => List.mem_cons_of_mem _ (rootsIn root here)⟩,
      List.forall_mem_cons.2 ⟨?_, fun page among child below => List.mem_cons_of_mem _ (childrenIn page among child below)⟩⟩
    rw [met]
    simp [Visit.below]
  | interior met _ under _ _ ihUnder ih =>
    obtain ⟨rootsUnder, childrenUnder⟩ := ihUnder
    obtain ⟨rootsIn, childrenIn⟩ := ih
    constructor
    · refine List.forall_mem_cons.2 ⟨List.mem_cons_self, fun root here => ?_⟩
      exact List.mem_cons_of_mem _ (List.mem_append_right _ (rootsIn root here))
    · refine List.forall_mem_cons.2 ⟨fun child named => ?_, fun page among child below => ?_⟩
      · rw [met, below_eq under] at named
        exact List.mem_cons_of_mem _ (List.mem_append_left _ (rootsUnder child named))
      · refine List.mem_cons_of_mem _ (List.mem_append.2 ?_)
        exact (List.mem_append.1 among).imp (childrenUnder page · child below) (childrenIn page · child below)

/-- The pages of a tree are those that its root reaches. -/
theorem mem_iff_inTree {root : PageNumber} (forest : Forest (pageOf file pageSize) [root] pages rows) (page : PageNumber) :
    page ∈ pages ↔ InTree (pageOf file pageSize) root page := by
  obtain ⟨rootsIn, childrenIn⟩ := forest.closed
  constructor
  · intro among
    obtain ⟨other, here, inside⟩ := forest.reached page among
    exact List.mem_singleton.1 here ▸ inside
  · intro inside
    induction inside with
    | refl => exact rootsIn root List.mem_cons_self
    | tail _ step among => exact childrenIn _ among _ step

/-- A walk from the roots visits the pages of the trees in their order, and tries no others. -/
theorem walked (forest : Forest (pageOf file pageSize) roots pages rows) (root : PageNumber) {seen : Seen}
    (once : pages.Nodup) (fresh : ∀ page ∈ pages, seen.contains page = false) :
    visits (pageOf file pageSize) root seen roots = pages.map (Visit.of (pageOf file pageSize)) ∧
      ∀ page, (triedBy (pageOf file pageSize) root seen roots).contains page =
        (seen.contains page || pages.contains page) := by
  induction forest generalizing seen with
  | nil => simp
  | @leaf number roots pages rows page cells met readable ascending rest ih =>
    obtain ⟨apart, once⟩ := List.nodup_cons.1 once
    have here := fresh number List.mem_cons_self
    obtain ⟨visited, tried⟩ := @ih (seen.insert number) once fun other inside => by
      have moved : number ≠ other := fun same => apart (same ▸ inside)
      simp [Std.HashSet.contains_insert, moved, fresh other (List.mem_cons_of_mem _ inside)]
    have bottom : (Visit.of (pageOf file pageSize) number).below = [] := by rw [met]; rfl
    constructor
    · rw [visits_fresh _ _ here, bottom, visits_nil, triedBy_nil, visited, List.nil_append, List.map_cons]
    · intro other
      rw [triedBy_fresh _ _ here, bottom, triedBy_nil, tried, Std.HashSet.contains_insert, List.contains_cons]
      simp only [BEq.comm, Bool.or_assoc, Bool.or_left_comm]
  | @interior number roots pages inside rows below page cells met readable under divides rest ihUnder ih =>
    obtain ⟨apart, once⟩ := List.nodup_cons.1 once
    obtain ⟨onceInside, oncePages, disjoint⟩ := List.nodup_append.1 once
    have here := fresh number List.mem_cons_self
    have later (other : PageNumber) (among : other ∈ inside ++ pages) : (seen.insert number).contains other = false := by
      have moved : number ≠ other := fun same => apart (same ▸ among)
      simp [Std.HashSet.contains_insert, moved, fresh other (List.mem_cons_of_mem _ among)]
    obtain ⟨visitedUnder, triedUnder⟩ :=
      ihUnder onceInside fun other among => later other (List.mem_append_left _ among)
    have children : (Visit.of (pageOf file pageSize) number).below = page.named := by rw [met, below_eq under]
    obtain ⟨visited, tried⟩ := @ih (triedBy (pageOf file pageSize) root (seen.insert number) page.named) oncePages
      fun other among => by
        have outside : other ∉ inside := fun both => disjoint other both other among rfl
        simp [triedUnder, later other (List.mem_append_right _ among), outside]
    constructor
    · rw [visits_fresh _ _ here, children, visitedUnder, visited, List.map_cons, List.map_append]
    · intro other
      rw [triedBy_fresh _ _ here, children, tried, triedUnder, Std.HashSet.contains_insert, List.contains_cons]
      simp only [List.contains_append, BEq.comm, Bool.or_assoc, Bool.or_left_comm]

end Forest

/-- A scan of a well-formed b-tree succeeds and passes over nothing. It gives every row of every leaf that the root
reaches once, and the row ids ascend strictly. -/
theorem scan_ascending {file : Bytes} {pageSize : Nat} {root : PageNumber} {pages : List PageNumber}
    {cells : List LeafCell} (tree : TableTree (pageOf file pageSize) root pages cells) {pager : Pager}
    (onFile : pager.Over file pageSize) :
    ((scanTable root).on pager).1 = .ok ⟨cells, []⟩ ∧ Ascending cells ∧
      cells = pages.flatMap (fun page => (Visit.of (pageOf file pageSize) page).rows) ∧
      ∀ page, page ∈ pages ↔ InTree (pageOf file pageSize) root page := by
  have same : [cells].flatten = cells := by simp
  obtain ⟨visited, -⟩ := tree.forest.walked root tree.once fun page _ => Std.HashSet.contains_empty
  refine ⟨scanned_of_visits onFile root cells ?_ ?_, tree.forest.ascending cells List.mem_cons_self, ?_,
    tree.forest.mem_iff_inTree⟩
  · rw [visited, tree.forest.outcomes_eq, same]
  · rw [visited, tree.forest.skipped_eq]
  · rw [← tree.forest.rows_eq, same]

/-- An interior page with the key -1 between the pages three and four. -/
def topPage : Bytes := #[5, 0, 0, 0, 1, 0, 14, 0, 0, 0, 0, 4, 0, 14, 0, 0, 0, 3, 255, 255, 255, 255, 255, 255, 255, 255, 255]

/-- A leaf with the least row id and the row id -1. -/
def leftLeaf : Bytes :=
  #[13, 0, 0, 0, 2, 0, 12, 0, 0, 22, 0, 12,
    0, 255, 255, 255, 255, 255, 255, 255, 255, 255, 0, 192, 128, 128, 128, 128, 128, 128, 128, 0]

/-- A leaf with the row id zero and the greatest row id. -/
def rightLeaf : Bytes :=
  #[13, 0, 0, 0, 2, 0, 16, 0, 0, 16, 0, 20, 0, 0, 0, 0, 1, 0, 7, 0, 0, 191, 255, 255, 255, 255, 255, 255, 255, 255]

def splitFile : Bytes := smallFile #[13, 0, 0, 0, 0, 2, 0, 0] [topPage, leftLeaf, rightLeaf]

theorem fits_splitFile : ∀ content ∈ [smallHeader.toBytes ++ #[13, 0, 0, 0, 0, 2, 0, 0], topPage, leftLeaf, rightLeaf],
    content.size ≤ 512 := by decide +kernel

/-- The least and the greatest row id on two leaves. -/
theorem scan_ascending_split : ((scanTable 2).on (.new splitFile 512 true)).1 =
      .ok ⟨[⟨-9223372036854775808, 0, #[]⟩, ⟨-1, 0, #[]⟩, ⟨0, 1, #[7]⟩, ⟨9223372036854775807, 0, #[]⟩], []⟩ := by
  have second : pageOf splitFile 512 2 = .ok (smallPage topPage) := pageOf_smallFile fits_splitFile (by decide) rfl
  have third : pageOf splitFile 512 3 = .ok (smallPage leftLeaf) := pageOf_smallFile fits_splitFile (by decide) rfl
  have fourth : pageOf splitFile 512 4 = .ok (smallPage rightLeaf) := pageOf_smallFile fits_splitFile (by decide) rfl
  obtain ⟨left, metLeft, leftRows, leftAll⟩ :=
    Visit.leaf_of_evaluated [⟨-9223372036854775808, 0, #[]⟩, ⟨-1, 0, #[]⟩] [] third (by decide +kernel)
  obtain ⟨right, metRight, rightRows, rightAll⟩ :=
    Visit.leaf_of_evaluated [⟨0, 1, #[7]⟩, ⟨9223372036854775807, 0, #[]⟩] [] fourth (by decide +kernel)
  obtain ⟨top, metTop, children, topAll, named⟩ :=
    Visit.interior_of_evaluated [⟨3, -1⟩] [] [3, 4] second (by decide +kernel)
  have leftRows := leftRows ▸ Outcomes.eq_map_ok_of_failures_nil leftAll
  have rightRows := rightRows ▸ Outcomes.eq_map_ok_of_failures_nil rightAll
  have children := children ▸ Outcomes.eq_map_ok_of_failures_nil topAll
  have leaves : Forest (pageOf splitFile 512) [3, 4] [3, 4]
      [[⟨-9223372036854775808, 0, #[]⟩, ⟨-1, 0, #[]⟩], [⟨0, 1, #[7]⟩, ⟨9223372036854775807, 0, #[]⟩]] :=
    .leaf metLeft leftRows (by decide) (.leaf metRight rightRows (by decide) .nil)
  have divides : Divides [-1]
      [[⟨-9223372036854775808, 0, #[]⟩, ⟨-1, 0, #[]⟩], [⟨0, 1, #[7]⟩, ⟨9223372036854775807, 0, #[]⟩]] := by
    refine ⟨by decide, ?_, ?_⟩
    all_goals
      rintro (_ | i) key cells isKey isRows
      · cases isKey
        cases isRows
        decide
      · cases isKey
  have tree : Forest (pageOf splitFile 512) [2] [2, 3, 4] [_] :=
    .interior metTop children (by rw [named]; exact leaves) divides .nil
  exact (scan_ascending ⟨tree, by decide⟩ (Pager.over_new splitFile 512 true)).1

end SqliteReader
