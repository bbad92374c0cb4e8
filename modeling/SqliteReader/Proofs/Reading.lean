import SqliteReader.Proofs.Pager

/-!
# Readings

What a reading answers on a pager, and how the answer of several readings in a row comes from those of
each. `ByPages` are the readings that use a pager for its pages alone: they give the same answer on all
pagers over one file (`ByPages.same`).
-/
namespace SqliteReader.Reading
variable {α β : Type} {pager : Pager}

/-- What a reading answers on a pager, and the pager behind it. -/
def on (reading : Reading α) (pager : Pager) : Except Error α × Pager := reading.run.run pager

@[simp] theorem on_pure (a : α) : on (pure a) pager = (.ok a, pager) := rfl

@[simp] theorem on_throw (error : Error) : on (throw error : Reading α) pager = (.error error, pager) := rfl

@[simp] theorem on_ofExcept (result : Except Error α) :
    on (MonadExcept.ofExcept result) pager = (result, pager) := by
  cases result <;> rfl

/-- Of two readings in a row the second works on what the first one has read, unless that fails. -/
theorem on_bind (first : Reading α) (second : α → Reading β) : on (first >>= second) pager =
    match on first pager with
    | (.ok a, pager) => on (second a) pager
    | (.error error, pager) => (.error error, pager) := by
  unfold on ExceptT.run StateT.run
  simp only [bind, ExceptT.bind, ExceptT.mk, StateT.bind, ExceptT.bindCont]
  rcases first pager with ⟨error | a, pager⟩ <;> rfl

/-- A reading that looks at the page size first. -/
def withSize (next : Nat → Reading α) : Reading α := fun pager => (next pager.pageSize).on pager

/-- A reading that reads a page first, and fails when the page cannot be read. -/
def withPage (page : PageNumber) (next : Bytes → Reading α) : Reading α := fun pager =>
  match (pager.read page).1 with
  | .ok data => (next data).on (pager.read page).2
  | .error error => (.error error, (pager.read page).2)

theorem on_withSize (next : Nat → Reading α) : (withSize next).on pager = (next pager.pageSize).on pager := rfl

theorem on_withPage (page : PageNumber) (next : Bytes → Reading α) : (withPage page next).on pager =
    match (pager.read page).1 with
    | .ok data => (next data).on (pager.read page).2
    | .error error => (.error error, (pager.read page).2) := rfl

/-- The reading uses the pager for nothing but its page size and its pages, and it fails with the first
page that cannot be read. -/
inductive ByPages : Reading α → Prop
  | done (result : Except Error α) : ByPages fun pager => (result, pager)
  | size (next : Nat → Reading α) (reads : ∀ n, ByPages (next n)) : ByPages (withSize next)
  | page (page : PageNumber) (next : Bytes → Reading α) (reads : ∀ data, ByPages (next data)) :
      ByPages (withPage page next)

namespace ByPages

theorem of_on {reading reading' : Reading α} (reads : ByPages reading)
    (same : ∀ pager, reading'.on pager = reading.on pager) : ByPages reading' :=
  (funext same : reading' = reading) ▸ reads

theorem pure (a : α) : ByPages (pure a : Reading α) := .done (.ok a)

theorem throw (error : Error) : ByPages (throw error : Reading α) := .done (.error error)

theorem ofExcept (result : Except Error α) : ByPages (MonadExcept.ofExcept result : Reading α) :=
  (ByPages.done result).of_on fun _ => on_ofExcept result

theorem bind {first : Reading α} {second : α → Reading β} (reads : ByPages first)
    (readsNext : ∀ a, ByPages (second a)) : ByPages (first >>= second) := by
  induction reads with
  | done result =>
    cases result with
    | ok a => exact (readsNext a).of_on fun pager => on_bind _ second
    | error error => exact (ByPages.done (.error error)).of_on fun pager => on_bind _ second
  | size next _ ih =>
    refine (ByPages.size (fun n => next n >>= second) ih).of_on fun pager => ?_
    rw [on_bind, on_withSize, on_withSize, on_bind]
  | page number next _ ih =>
    refine (ByPages.page number (fun data => next data >>= second) ih).of_on fun pager => ?_
    rw [on_bind, on_withPage, on_withPage]
    cases (pager.read number).1 with
    | error error => rfl
    | ok data => exact (on_bind (next data) second).symm

theorem map {reading : Reading α} (reads : ByPages reading) (f : α → β) : ByPages (f <$> reading) := by
  rw [map_eq_pure_bind]
  exact reads.bind fun a => .pure (f a)

theorem mapM {γ : Type} {reading : γ → Reading α} (reads : ∀ c, ByPages (reading c)) (items : List γ) :
    ByPages (items.mapM reading) := by
  induction items with
  | nil => exact .pure []
  | cons item items ih =>
    rw [List.mapM_cons]
    exact (reads item).bind fun a => ih.bind fun rest => .pure (a :: rest)

/-- All pagers over one file give the same answer, and go on reading that file. -/
theorem same {reading : Reading α} (reads : ByPages reading) {file : Bytes} {pageSize : Nat} {pager pager' : Pager}
    (onFile : pager.Over file pageSize) (onFile' : pager'.Over file pageSize) :
    (reading.on pager).1 = (reading.on pager').1 ∧ (reading.on pager).2.Over file pageSize := by
  induction reads generalizing pager pager' with
  | done result => exact ⟨rfl, onFile⟩
  | size next _ ih =>
    rw [on_withSize, on_withSize, onFile.pageSize_eq, onFile'.pageSize_eq]
    exact ih pageSize onFile onFile'
  | page number next _ ih =>
    obtain ⟨answered, overNext⟩ := Pager.read_over onFile number
    obtain ⟨answered', overNext'⟩ := Pager.read_over onFile' number
    rw [on_withPage, on_withPage, answered, answered']
    cases pageOf file pageSize number with
    | error error => exact ⟨rfl, overNext⟩
    | ok data => exact ih data overNext overNext'

end ByPages
end SqliteReader.Reading
