import SqliteReader.Proofs.Reading

/-!
# The pages that a reading has read

A pager that keeps pages holds, when a reading is over, exactly those that the reading was given, so what it keeps
says what the answer rests on: another file that has the same pages there gives the same answer, unless the answer
is that a page could not be read (`ByPages.answer_of_kept`).
-/
namespace SqliteReader

/-- Away from page zero, a page that is not in the file is past its end. -/
theorem kind_of_pageOf_error {file : Bytes} {pageSize : Nat} {page : PageNumber} {error : Error}
    (failed : pageOf file pageSize page = .error error) : page = 0 ∨ error.kind = .io := by
  unfold pageOf at failed
  split at failed
  · rename_i zero
    exact .inl zero
  · split at failed
    · cases failed
    · cases failed
      exact .inr rfl

namespace Pager
variable {pager : Pager} {page other : PageNumber} {data : Bytes}

/-- The pager keeps the pages that it reads. -/
def Keeps (pager : Pager) : Prop := pager.cache.isSome

theorem keeps_new (file : Bytes) (pageSize : Nat) : (new file pageSize true).Keeps := rfl

theorem keeps_read (keeps : pager.Keeps) (page : PageNumber) : (pager.read page).2.Keeps := by
  unfold read
  split
  · exact keeps
  · split
    · exact keeps
    · split
      · simpa [Keeps, keep] using keeps
      · exact keeps

theorem kept?_keep_self (keeps : pager.Keeps) : (pager.keep page data).kept? page = some data := by
  obtain ⟨pages, cache⟩ := Option.isSome_iff_exists.1 keeps
  simp [kept?, keep, cache]

theorem kept?_keep_of_ne (moved : other ≠ page) : (pager.keep page data).kept? other = pager.kept? other := by
  cases cache : pager.cache with
  | none => simp [kept?, keep, cache]
  | some pages => simp [kept?, keep, cache, Std.HashMap.getElem?_insert, Ne.symm moved]

/-- A page that was kept stays as it is when others are read. -/
theorem kept?_read (page : PageNumber) (held : pager.kept? other = some data) :
    (pager.read page).2.kept? other = some data := by
  unfold read
  split
  · exact held
  · split
    · exact held
    · rename_i missing
      split
      · have moved : other ≠ page := by
          rintro rfl
          simp [held] at missing
        rw [kept?_keep_of_ne moved, held]
      · exact held

/-- A page that was read is kept. -/
theorem kept?_of_read (keeps : pager.Keeps) (answered : (pager.read page).1 = .ok data) :
    (pager.read page).2.kept? page = some data := by
  unfold read at answered ⊢
  split at answered
  · cases answered
  · rename_i nonzero
    rw [if_neg nonzero]
    cases held : pager.kept? page with
    | some found =>
      rw [held] at answered
      cases answered
      exact held
    | none =>
      simp only [held] at answered ⊢
      cases found : pager.stored? page with
      | none => simp [found] at answered
      | some stored =>
        simp only [found] at answered ⊢
        cases answered
        exact kept?_keep_self keeps

end Pager

namespace Reading.ByPages
variable {α : Type} {reading : Reading α} {pager : Pager}

/-- What is kept before a reading is kept behind it. -/
theorem kept?_on (reads : ByPages reading) {page : PageNumber} {data : Bytes}
    (held : pager.kept? page = some data) : (reading.on pager).2.kept? page = some data := by
  induction reads generalizing pager with
  | done result => exact held
  | size next _ ih => exact ih pager.pageSize held
  | page number next _ ih =>
    have heldNext := Pager.kept?_read number held
    rw [on_withPage]
    cases (pager.read number).1 with
    | error error => exact heldNext
    | ok found => exact ih found heldNext

/-- An answer rests on the pages that are kept behind it: another file in which they are the same gives the same
answer. A page that is missing here may be there, so the answer must not be that one is missing. -/
theorem answer_of_kept (reads : ByPages reading) {file file' : Bytes} {pageSize : Nat} {pager' : Pager}
    (keeps : pager.Keeps) (onFile : pager.Over file pageSize) (onFile' : pager'.Over file' pageSize)
    (same : ∀ page data, (reading.on pager).2.kept? page = some data → pageOf file' pageSize page = .ok data)
    (readable : ∀ error, (reading.on pager).1 = .error error → error.kind ≠ .io) :
    (reading.on pager').1 = (reading.on pager).1 := by
  induction reads generalizing pager pager' with
  | done result => rfl
  | size next _ ih =>
    rw [on_withSize] at same readable ⊢
    rw [on_withSize, onFile'.pageSize_eq, ← onFile.pageSize_eq]
    exact ih pager.pageSize keeps onFile onFile' same readable
  | page number next readsNext ih =>
    obtain ⟨answered, overNext⟩ := Pager.read_over onFile number
    obtain ⟨answered', overNext'⟩ := Pager.read_over onFile' number
    rw [on_withPage] at same readable ⊢
    rw [on_withPage, answered']
    cases found : (pager.read number).1 with
    | error error =>
      rw [found] at readable
      rw [found] at answered
      rcases kind_of_pageOf_error answered.symm with rfl | missing
      · have zero : pageOf file pageSize 0 = pageOf file' pageSize 0 := rfl
        rw [← zero, ← answered]
      · exact absurd missing (readable error rfl)
    | ok data =>
      rw [found] at same readable
      have held := Pager.kept?_of_read keeps found
      rw [same number data ((readsNext data).kept?_on held)]
      exact ih data (Pager.keeps_read keeps number) overNext overNext' same readable

end Reading.ByPages
end SqliteReader
