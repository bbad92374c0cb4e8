import SqliteReader.Database
import SqliteReader.Page
import Std.Data.HashSet

/-!
# Walking a table

A cursor walks the b-tree of a table from left to right and gives its rows one by one. The pages still
to come lie on a stack, so a tree may be of any depth. A page is read at most once in a walk: one that
is reached again is an error, as is one that cannot be read, and either way the walk can go on behind
it. Rows and children that cannot be read are set aside and the walk goes on without them.

A walk ends on every file: a page tried for the first time leaves fewer pages unseen
(`unseen_insert`), and a step that tries none takes something off the stack or off the rows at hand
(`next_lowers`).
-/
namespace SqliteReader

/-- A walk over the b-tree of a table. -/
structure Cursor where
  root : PageNumber
  /-- The pages still to come, the next one first. -/
  stack : List PageNumber
  /-- Rows of the last leaf that were not given yet. -/
  pending : List LeafCell
  /-- The pages that were tried so far. -/
  seen : Std.HashSet PageNumber
  /-- What could not be read and was passed over. -/
  skipped : List Error

namespace Cursor

/-- A walk that has not begun. -/
def new (root : PageNumber) : Cursor := ⟨root, [root], [], ∅, []⟩

/-- The walk from the start again. -/
def reset (cursor : Cursor) : Cursor := new cursor.root

/-- The errors set aside so far, which are given out once. -/
def takeSkipped (cursor : Cursor) : List Error × Cursor :=
  (cursor.skipped, { cursor with skipped := [] })

/-- The walk with a page read: a leaf gives rows, an interior page gives children. -/
def enter (cursor : Cursor) (page : Page) : Except Error Cursor :=
  match page.kind with
  | .leafTable =>
    let cells := page.leafCells
    .ok { cursor with
      pending := cursor.pending ++ cells.results, skipped := cursor.skipped ++ cells.errors }
  | .interiorTable =>
    let children := page.children
    .ok { cursor with
      stack := children.results ++ cursor.stack, skipped := cursor.skipped ++ children.errors }
  | .interiorIndex | .leafIndex => .error (.invalidPageType page.number page.kind.tag)

/-- Reads the next page of the walk, which has been taken off the stack. -/
def visit (cursor : Cursor) (page : PageNumber) (pager : Pager) :
    Except Error Unit × Cursor × Pager :=
  if cursor.seen.contains page then
    (.error (.corruptedPage page (.reachedTwice cursor.root)), cursor, pager)
  else
    let cursor := { cursor with seen := cursor.seen.insert page }
    let (data, pager) := pager.read page
    match data.bind fun data => (Page.read page data).bind cursor.enter with
    | .ok cursor => (.ok (), cursor, pager)
    | .error error => (.error error, cursor, pager)

/-- How many of the first `pages` pages were not tried. -/
def untried : (pages : Nat) → (seen : Std.HashSet PageNumber) → Nat
  | 0, _ => 0
  | pages + 1, seen =>
    if seen.contains (UInt32.ofNat (pages + 1)) then untried pages seen else untried pages seen + 1

/-- The number of pages that were not tried, of all that have a number. Page zero comes last. -/
@[irreducible]
def unseen (seen : Std.HashSet PageNumber) : Nat := untried UInt32.size seen

theorem untried_insert_le (pages : Nat) (seen : Std.HashSet PageNumber) (page : PageNumber) :
    untried pages (seen.insert page) ≤ untried pages seen := by
  induction pages with
  | zero => exact Nat.le_refl 0
  | succ pages ih => grind [untried]

/-- A page tried for the first time leaves fewer untried among those that it belongs to. -/
theorem untried_insert_lt {seen : Std.HashSet PageNumber} {page : PageNumber}
    (fresh : seen.contains page = false) {pages : Nat} (number : Nat)
    (named : UInt32.ofNat (number + 1) = page) (inside : number < pages) :
    untried pages (seen.insert page) < untried pages seen := by
  induction pages with
  | zero => cases inside
  | succ pages ih =>
    by_cases last : number = pages
    · have fewer := untried_insert_le pages seen page
      subst last named
      simp only [untried, Std.HashSet.contains_insert_self, fresh, if_true]
      exact Nat.lt_succ_of_le fewer
    · have fewer := ih (by omega)
      grind [untried]

/-- A page tried for the first time leaves fewer pages unseen. -/
theorem unseen_insert {seen : Std.HashSet PageNumber} {page : PageNumber}
    (fresh : seen.contains page = false) : unseen (seen.insert page) < unseen seen := by
  unfold unseen
  by_cases zero : page = 0
  · exact untried_insert_lt fresh (UInt32.size - 1) (by rw [zero]; rfl) (by decide)
  · have positive : page.toNat ≠ 0 := fun none => zero (UInt32.toNat_inj.1 none)
    have below : page.toNat < UInt32.size := page.toNat_lt
    refine untried_insert_lt fresh (page.toNat - 1) ?_ (by omega)
    rw [Nat.sub_add_cancel (by omega), UInt32.ofNat_toNat]

theorem enter_seen {cursor next : Cursor} {page : Page} (h : cursor.enter page = .ok next) :
    next.seen = cursor.seen := by
  unfold enter at h
  split at h <;> cases h <;> rfl

/-- A page that is read was unseen before. -/
theorem unseen_visit {cursor next : Cursor} {page : PageNumber} {pager pager' : Pager}
    (h : cursor.visit page pager = (.ok (), next, pager')) :
    unseen next.seen < unseen cursor.seen := by
  unfold visit at h
  split at h
  · cases h
  · rename_i fresh
    dsimp only at h
    split at h
    · rename_i entered
      cases h
      cases data : (pager.read page).1 with
      | error error => rw [data] at entered; cases entered
      | ok data =>
        rw [data] at entered
        simp only [Except.bind] at entered
        split at entered
        · cases entered
        · rw [enter_seen entered]
          exact unseen_insert (by simpa using fresh)
    · cases h

/-- The next row of the walk, or none at its end. After an error the walk can go on. -/
def next (cursor : Cursor) (pager : Pager) : Except Error (Option LeafCell) × Cursor × Pager :=
  match cursor.pending with
  | cell :: pending => (.ok (some cell), { cursor with pending }, pager)
  | [] =>
    match cursor.stack with
    | [] => (.ok none, cursor, pager)
    | page :: stack =>
      match _visited : visit { cursor with stack } page pager with
      | (.error error, cursor, pager) => (.error error, cursor, pager)
      | (.ok (), cursor, pager) => cursor.next pager
termination_by unseen cursor.seen
decreasing_by have lower := unseen_visit _visited; exact lower

theorem visit_error {cursor next : Cursor} {page : PageNumber} {pager pager' : Pager} {error : Error}
    (h : cursor.visit page pager = (.error error, next, pager')) :
    next.stack = cursor.stack ∧ next.pending = cursor.pending ∧
      (next.seen = cursor.seen ∨ unseen next.seen < unseen cursor.seen) := by
  unfold visit at h
  split at h
  · cases h; exact ⟨rfl, rfl, .inl rfl⟩
  · rename_i fresh
    dsimp only at h
    split at h
    · cases h
    · cases h; exact ⟨rfl, rfl, .inr (unseen_insert (by simpa using fresh))⟩

/-- A step that does not end the walk leaves fewer pages unseen, or as many and less at hand. -/
theorem next_lowers {cursor next : Cursor} {pager pager' : Pager}
    {result : Except Error (Option LeafCell)} (h : cursor.next pager = (result, next, pager'))
    (more : result ≠ .ok none) :
    unseen next.seen < unseen cursor.seen ∨ next.seen = cursor.seen ∧
      next.stack.length + next.pending.length < cursor.stack.length + cursor.pending.length := by
  fun_induction Cursor.next cursor pager with
  | case1 cursor pager cell pending isCons =>
    cases h; refine .inr ⟨rfl, ?_⟩; simp [isCons]
  | case2 cursor pager noRows noPages => cases h; exact absurd rfl more
  | case3 cursor pager noRows page stack isCons error failed pager'' visited =>
    cases h
    obtain ⟨sameStack, samePending, same | fewer⟩ := visit_error visited
    · refine .inr ⟨same, ?_⟩; simp [sameStack, samePending, isCons]
    · exact .inl fewer
  | case4 cursor pager noRows page stack isCons entered pager'' visited ih =>
    have fewer := unseen_visit visited
    rcases ih h with below | ⟨same, _⟩
    · exact .inl (Nat.lt_trans below fewer)
    · rw [same]; exact .inl fewer

/-- Feeds the remaining rows of the walk to `f`, one after the other, until the walk ends or a step
fails. -/
def fold {β : Type} (f : β → LeafCell → Except Error β) (state : β) (cursor : Cursor)
    (pager : Pager) : Except Error β × Cursor × Pager :=
  let stepped := cursor.next pager
  match _given : stepped.1 with
  | .error error => (.error error, stepped.2)
  | .ok none => (.ok state, stepped.2)
  | .ok (some cell) =>
    match f state cell with
    | .error error => (.error error, stepped.2)
    | .ok state => fold f state stepped.2.1 stepped.2.2
termination_by (unseen cursor.seen, cursor.stack.length + cursor.pending.length)
decreasing_by
  have moved : cursor.next pager = (stepped.1, stepped.2.1, stepped.2.2) := rfl
  rcases next_lowers moved (by simp [_given]) with fewer | ⟨same, less⟩
  · exact .left _ _ fewer
  · rw [same]; exact .right _ less

end Cursor
end SqliteReader
