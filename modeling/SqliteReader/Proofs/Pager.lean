import SqliteReader.Database
import SqliteReader.Proofs.Bytes

/-!
# Pagers over one file

What a pager answers when its file stays as it is: the page that the file holds (`pageOf`), whatever
was read before and whether or not pages are kept. `Over` is the invariant behind that: every page
kept so far is a page of the file.
-/
namespace SqliteReader

/-- The page of `file` with this number, read straight from the file. -/
def pageOf (file : Bytes) (pageSize : Nat) (page : PageNumber) : Except Error Bytes :=
  if page = 0 then .error (.outOfBounds .pageNumber 0 0)
  else match file.slice? ((page.toNat - 1) * pageSize) ((page.toNat - 1) * pageSize + pageSize) with
    | some data => .ok data
    | none => .error .endOfFile

/-- The pages that can be read are the whole pages of the file. -/
theorem pageOf_eq_ok_iff {file : Bytes} {pageSize : Nat} {page : PageNumber} {data : Bytes} :
    pageOf file pageSize page = .ok data ↔ 0 < page.toNat ∧ page.toNat * pageSize ≤ file.size ∧
      file.extract ((page.toNat - 1) * pageSize) (page.toNat * pageSize) = data := by
  unfold pageOf
  by_cases zero : page = 0
  · simp [zero]
  · have positive : 0 < page.toNat := Nat.pos_of_ne_zero fun none => zero (UInt32.toNat_inj.1 none)
    have next : (page.toNat - 1) * pageSize + pageSize = page.toNat * pageSize := by
      rw [← Nat.succ_mul, Nat.succ_eq_add_one, Nat.sub_add_cancel positive]
    rw [if_neg zero, next, Bytes.slice?]
    by_cases inside : page.toNat * pageSize ≤ file.size
    · rw [if_pos (by omega)]
      simp [positive, inside]
    · rw [if_neg (by omega)]
      simp [inside]

theorem size_of_pageOf {file : Bytes} {pageSize : Nat} {page : PageNumber} {data : Bytes}
    (loaded : pageOf file pageSize page = .ok data) : data.size = pageSize := by
  obtain ⟨positive, inside, rfl⟩ := pageOf_eq_ok_iff.1 loaded
  rw [Array.size_extract, Nat.min_eq_left inside, ← Nat.sub_mul, Nat.sub_sub_self positive, Nat.one_mul]

/-- Of pages one behind the other, each is read under its number. -/
theorem pageOf_concat {pages : List Bytes} {pageSize : Nat} (sized : ∀ data ∈ pages, data.size = pageSize)
    {page : PageNumber} (numbered : page ≠ 0) {data : Bytes} (there : pages[page.toNat - 1]? = some data) :
    pageOf (Bytes.concat pages) pageSize page = .ok data := by
  have held := (Bytes.holds_self (Bytes.concat pages)).getElem?_concat sized there
  rw [Bytes.Holds, sized data (List.mem_of_getElem? there), Nat.zero_add] at held
  rw [pageOf, if_neg numbered, held]

namespace Pager

/-- The pager reads this file in pages of this size, and has kept nothing but pages of it. -/
structure Over (file : Bytes) (pageSize : Nat) (pager : Pager) : Prop where
  file_eq : pager.file = file
  pageSize_eq : pager.pageSize = pageSize
  kept : ∀ page data, pager.kept? page = some data → pageOf file pageSize page = .ok data

theorem over_new (file : Bytes) (pageSize : Nat) (keepPages : Bool) :
    (new file pageSize keepPages).Over file pageSize := by
  refine ⟨rfl, rfl, ?_⟩
  intro page data found
  cases keepPages <;> simp [new, kept?] at found

/-- Of the pages kept, only the one just added is new. -/
theorem kept?_keep {pager : Pager} {page other : PageNumber} {data found : Bytes}
    (held : (pager.keep page data).kept? other = some found) :
    (other = page ∧ found = data) ∨ pager.kept? other = some found := by
  unfold keep kept? at held
  unfold kept?
  cases cache : pager.cache with
  | none => simp [cache] at held
  | some pages =>
    simp only [cache, Option.map_some, Option.bind_some, Std.HashMap.getElem?_insert] at held ⊢
    by_cases same : page = other
    · simp only [same, beq_self_eq_true, if_true, Option.some.injEq] at held
      exact .inl ⟨same.symm, held.symm⟩
    · exact .inr (by simpa [same] using held)

/-- A page is answered as the file holds it, and no other page is ever kept. -/
theorem read_over {file : Bytes} {pageSize : Nat} {pager : Pager} (onFile : pager.Over file pageSize)
    (page : PageNumber) :
    (pager.read page).1 = pageOf file pageSize page ∧ (pager.read page).2.Over file pageSize := by
  unfold read
  by_cases zero : page = 0
  · simp [zero, pageOf, onFile]
  · rw [if_neg zero]
    cases held : pager.kept? page with
    | some data => exact ⟨(onFile.kept page data held).symm, onFile⟩
    | none =>
      have direct : pageOf file pageSize page =
          match pager.stored? page with | some data => .ok data | none => .error .endOfFile := by
        simp only [pageOf, zero, if_false, stored?, onFile.file_eq, onFile.pageSize_eq]
      cases found : pager.stored? page with
      | none => exact ⟨by simp [direct, found], onFile⟩
      | some data =>
        refine ⟨by simp [direct, found], onFile.file_eq, onFile.pageSize_eq, ?_⟩
        intro other bytes keptNow
        rcases kept?_keep keptNow with ⟨rfl, rfl⟩ | before
        · simp [direct, found]
        · exact onFile.kept other bytes before

end Pager
end SqliteReader
