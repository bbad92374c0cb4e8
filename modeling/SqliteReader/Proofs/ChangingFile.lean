import Mathlib.Data.Finset.Card
import SqliteReader.Proofs.PagesRead
import SqliteReader.Proofs.Partial

/-!
# Pagers over a file that changes

While a pager is open its file may be written over, cut and grown between any two reads. What a pager that keeps
pages then answers is told by its past (`Recalls`): a page is answered as the file held it when it was first read
with success, and as the file holds it now when it never was. One read keeps this (`Recalls.read`), and so does a
whole run of reads and changes (`recalls_after`). A pager that keeps nothing answers from the file as it is now.
-/
namespace SqliteReader.Pager

/-- What happens while a pager is open: its file becomes another one, or a page is read. -/
inductive Event
  | change (file : Bytes)
  | read (page : PageNumber)

/-- A page that was read: its number, the file at that time, and the answer. -/
structure Moment where
  page : PageNumber
  file : Bytes
  answer : Except Error Bytes

/-- Whether the page could be read. -/
def Moment.good (moment : Moment) : Bool := moment.answer.isOk

/-- The pager behind one event. -/
def meet (pager : Pager) : Event → Pager
  | .change file => { pager with file }
  | .read page => (pager.read page).2

/-- The pager behind a run of events. -/
def after (pager : Pager) (events : List Event) : Pager := events.foldl meet pager

/-- The reads among a run of events, in order. -/
def reads (pager : Pager) : List Event → List Moment
  | [] => []
  | .change file :: rest => reads (pager.meet (.change file)) rest
  | .read page :: rest => ⟨page, pager.file, (pager.read page).1⟩ :: reads (pager.meet (.read page)) rest

/-- What a file has become behind a run of events. -/
def fileAfter (file : Bytes) (events : List Event) : Bytes :=
  events.foldl (fun file event => match event with | .change other => other | .read _ => file) file

/-- The first read of this page that gave it. -/
def firstGood? (past : List Moment) (page : PageNumber) : Option Moment :=
  past.find? fun moment => moment.page == page && moment.good

/-- The pages that were read with success, each once. -/
def goodPages (past : List Moment) : Finset PageNumber := ((past.filter Moment.good).map Moment.page).toFinset

/-! ## Runs of events -/

theorem reads_append (pager : Pager) (first second : List Event) :
    pager.reads (first ++ second) = pager.reads first ++ (pager.after first).reads second := by
  induction first generalizing pager with
  | nil => rfl
  | cons event first ih =>
    cases event with
    | change file => exact ih _
    | read page => exact congrArg (_ :: ·) (ih _)

theorem after_append (pager : Pager) (first second : List Event) :
    pager.after (first ++ second) = (pager.after first).after second := List.foldl_append

/-! ## One read -/

/-- A kept page is answered without a look at the file. -/
theorem read_of_kept {pager : Pager} {page : PageNumber} {data : Bytes} (numbered : page ≠ 0)
    (held : pager.kept? page = some data) : pager.read page = (.ok data, pager) := by
  rw [read, if_neg numbered, held]

/-- A page that is not kept is answered from the file, and is kept from then on if it is there. -/
theorem read_of_missing {pager : Pager} {page : PageNumber} (missing : pager.kept? page = none) :
    pager.read page = (pageOf pager.file pager.pageSize page,
      match pageOf pager.file pager.pageSize page with
      | .ok data => pager.keep page data
      | .error _ => pager) := by
  unfold read pageOf
  by_cases zero : page = 0
  · simp only [zero, if_true]
  · simp only [zero, if_false, missing, stored?]
    cases pager.file.slice? ((page.toNat - 1) * pager.pageSize) ((page.toNat - 1) * pager.pageSize + pager.pageSize) <;>
      rfl

/-- A read leaves the pager as it was, or it succeeds and the page is kept. -/
theorem pager_of_read (pager : Pager) (page : PageNumber) : (pager.read page).2 = pager ∨
    ∃ data, (pager.read page).1 = .ok data ∧ (pager.read page).2 = pager.keep page data := by
  cases held : pager.kept? page with
  | some data =>
    left
    by_cases zero : page = 0
    · rw [read, if_pos zero]
    · rw [read_of_kept zero held]
  | none =>
    rw [read_of_missing held]
    cases pageOf pager.file pager.pageSize page with
    | error error => exact .inl rfl
    | ok data => exact .inr ⟨data, rfl, rfl⟩

/-- A read that fails leaves the pager as it was. -/
theorem pager_of_failed {pager : Pager} {page : PageNumber} {error : Error}
    (failed : (pager.read page).1 = .error error) : (pager.read page).2 = pager := by
  rcases pager_of_read pager page with same | ⟨data, answered, -⟩
  · exact same
  · rw [failed] at answered
    cases answered

/-- Reading changes neither the file nor the size of its pages. -/
theorem file_read (pager : Pager) (page : PageNumber) :
    (pager.read page).2.file = pager.file ∧ (pager.read page).2.pageSize = pager.pageSize := by
  rcases pager_of_read pager page with same | ⟨data, -, kept⟩
  · rw [same]
    exact ⟨rfl, rfl⟩
  · rw [kept]
    exact ⟨rfl, rfl⟩

/-- Only the changes change the file, and nothing changes the size of its pages. -/
theorem file_after (pager : Pager) (events : List Event) :
    (pager.after events).file = fileAfter pager.file events ∧ (pager.after events).pageSize = pager.pageSize := by
  induction events generalizing pager with
  | nil => exact ⟨rfl, rfl⟩
  | cons event rest ih =>
    cases event with
    | change file => exact ih _
    | read page =>
      obtain ⟨file, size⟩ := ih (pager.meet (.read page))
      rw [meet, (file_read pager page).1] at file
      rw [meet, (file_read pager page).2] at size
      exact ⟨file, size⟩

/-- One more page is kept when it was not kept before. -/
theorem cachedPages_keep {pager : Pager} {page : PageNumber} {data : Bytes} (keeps : pager.Keeps)
    (missing : pager.kept? page = none) : (pager.keep page data).cachedPages = pager.cachedPages + 1 := by
  obtain ⟨pages, cache⟩ := Option.isSome_iff_exists.1 keeps
  have fresh : page ∉ pages := by
    intro inside
    rw [kept?, cache, Option.bind_some, Std.HashMap.getElem?_eq_some_getElem inside] at missing
    cases missing
  simp [cachedPages, keep, cache, Std.HashMap.size_insert, fresh]

/-! ## Pages kept over a run -/

/-- The pager keeps what was read in the past: each page that was read with success, as the file held it when that
first happened. -/
structure Recalls (past : List Moment) (pager : Pager) : Prop where
  keeps : pager.Keeps
  kept : ∀ page, pager.kept? page = (firstGood? past page).bind (·.answer.toOption)
  good : ∀ page moment, firstGood? past page = some moment →
    moment.answer = pageOf moment.file pager.pageSize page
  again : ∀ moment ∈ past, ∀ data, moment.answer = .ok data → pager.kept? moment.page = some data
  count : pager.cachedPages = (goodPages past).card

theorem firstGood?_append (past : List Moment) (moment : Moment) (page : PageNumber) :
    firstGood? (past ++ [moment]) page =
      (firstGood? past page).or (if moment.page = page ∧ moment.good then some moment else none) := by
  rw [firstGood?, List.find?_append, ← firstGood?, List.find?_singleton]
  simp

theorem good_of_firstGood? {past : List Moment} {page : PageNumber} {moment : Moment}
    (found : firstGood? past page = some moment) : moment.page = page ∧ ∃ data, moment.answer = .ok data := by
  have both := List.find?_some found
  simp only [Bool.and_eq_true, beq_iff_eq, Moment.good] at both
  obtain ⟨same, good⟩ := both
  cases answer : moment.answer with
  | error error =>
    rw [answer] at good
    cases good
  | ok data => exact ⟨same, data, rfl⟩

theorem mem_goodPages_iff {past : List Moment} {page : PageNumber} :
    page ∈ goodPages past ↔ (firstGood? past page).isSome := by
  simp only [goodPages, List.mem_toFinset, List.mem_map, List.mem_filter, firstGood?, List.find?_isSome,
    Bool.and_eq_true, beq_iff_eq]
  constructor
  · rintro ⟨moment, ⟨inside, good⟩, same⟩
    exact ⟨moment, inside, same, good⟩
  · rintro ⟨moment, inside, same, good⟩
    exact ⟨moment, ⟨inside, good⟩, same⟩

namespace Recalls
variable {past : List Moment} {pager : Pager}

/-- A page that was read with success is answered the same again, and nothing changes. -/
theorem read_of_found (recalls : Recalls past pager) {page : PageNumber} {first : Moment}
    (found : firstGood? past page = some first) : pager.read page = (first.answer, pager) := by
  obtain ⟨-, data, answer⟩ := good_of_firstGood? found
  have given := recalls.good page first found
  have held : pager.kept? page = some data := by rw [recalls.kept, found, Option.bind_some, answer]; rfl
  have numbered : page ≠ 0 := by
    rintro rfl
    rw [answer, pageOf, if_pos rfl] at given
    cases given
  rw [read_of_kept numbered held, answer]

theorem kept?_of_missing (recalls : Recalls past pager) {page : PageNumber} (missing : firstGood? past page = none) :
    pager.kept? page = none := by
  rw [recalls.kept, missing, Option.bind_none]

/-- A page is answered as the file held it when it was first read with success, and if it never was, as the file
holds it now. -/
theorem answer_eq (recalls : Recalls past pager) (page : PageNumber) : (pager.read page).1 =
    pageOf (((firstGood? past page).map Moment.file).getD pager.file) pager.pageSize page := by
  cases found : firstGood? past page with
  | none => rw [read_of_missing (recalls.kept?_of_missing found)]; rfl
  | some first => rw [recalls.read_of_found found]; exact recalls.good page first found

/-- A page that was given once is given the same ever after. -/
theorem answer_again (recalls : Recalls past pager) {moment : Moment} (inside : moment ∈ past) {data : Bytes}
    (given : moment.answer = .ok data) : (pager.read moment.page).1 = .ok data := by
  have held := recalls.again moment inside data given
  rw [recalls.kept] at held
  obtain ⟨first, found, same⟩ := Option.bind_eq_some_iff.1 held
  rw [recalls.read_of_found found]
  exact Outcomes.ok_of_toOption same

/-- A change of the file is not noticed. -/
theorem change (recalls : Recalls past pager) (file : Bytes) : Recalls past (pager.meet (.change file)) :=
  ⟨recalls.keeps, recalls.kept, recalls.good, recalls.again, recalls.count⟩

/-- A moment is recalled when it is the first good one of no page and tells nothing but what is kept. -/
theorem append (recalls : Recalls past pager) {moment : Moment}
    (same : ∀ page, firstGood? (past ++ [moment]) page = firstGood? past page)
    (known : ∀ data, moment.answer = .ok data → pager.kept? moment.page = some data) :
    Recalls (past ++ [moment]) pager := by
  have pages : goodPages (past ++ [moment]) = goodPages past := by
    ext page
    rw [mem_goodPages_iff, mem_goodPages_iff, same]
  refine ⟨recalls.keeps, ?_, ?_, ?_, ?_⟩
  · intro page
    rw [same, recalls.kept]
  · intro page first found
    rw [same] at found
    exact recalls.good page first found
  · intro other inside
    rcases List.mem_append.1 inside with before | last
    · exact recalls.again other before
    · rw [List.mem_singleton.1 last]
      exact known
  · rw [pages, recalls.count]

/-- A page that was never read with success is recalled from the first time that it is. -/
theorem keep (recalls : Recalls past pager) {page : PageNumber} (missing : firstGood? past page = none) {data : Bytes}
    (direct : pageOf pager.file pager.pageSize page = .ok data) :
    Recalls (past ++ [⟨page, pager.file, .ok data⟩]) (pager.keep page data) := by
  have found (other : PageNumber) : firstGood? (past ++ [⟨page, pager.file, .ok data⟩]) other =
      if other = page then some ⟨page, pager.file, .ok data⟩ else firstGood? past other := by
    rw [firstGood?_append]
    by_cases same : page = other
    · rw [← same, missing]
      simp [Moment.good, Except.isOk, Except.toBool]
    · simp [same, Ne.symm same]
  have pages : goodPages (past ++ [⟨page, pager.file, .ok data⟩]) = insert page (goodPages past) := by
    ext other
    rw [mem_goodPages_iff, Finset.mem_insert, mem_goodPages_iff, found]
    by_cases same : other = page <;> simp [same]
  have fresh : page ∉ goodPages past := by simp [mem_goodPages_iff, missing]
  have keepsNext : (pager.keep page data).Keeps := by
    have keeps := recalls.keeps
    simpa [Keeps, Pager.keep] using keeps
  refine ⟨keepsNext, ?_, ?_, ?_, ?_⟩
  · intro other
    rw [found]
    by_cases same : other = page
    · rw [same, kept?_keep_self recalls.keeps, if_pos rfl]
      rfl
    · rw [kept?_keep_of_ne same, if_neg same, recalls.kept]
  · intro other moment given
    rw [found] at given
    by_cases same : other = page
    · rw [if_pos same] at given
      cases given
      rw [same]
      exact direct.symm
    · rw [if_neg same] at given
      exact recalls.good other moment given
  · intro moment inside other given
    rcases List.mem_append.1 inside with before | last
    · have held := recalls.again moment before other given
      have moved : moment.page ≠ page := by
        intro same
        rw [same, recalls.kept?_of_missing missing] at held
        cases held
      rw [kept?_keep_of_ne moved, held]
    · rw [List.mem_singleton.1 last] at given ⊢
      cases given
      exact kept?_keep_self recalls.keeps
  · rw [cachedPages_keep recalls.keeps (recalls.kept?_of_missing missing), pages, Finset.card_insert_of_notMem fresh,
      recalls.count]

/-- A read is recalled from then on. -/
theorem read (recalls : Recalls past pager) (page : PageNumber) :
    Recalls (past ++ [⟨page, pager.file, (pager.read page).1⟩]) (pager.meet (.read page)) := by
  cases first : firstGood? past page with
  | some moment =>
    rw [meet, recalls.read_of_found first]
    refine recalls.append ?_ ?_
    · intro other
      rw [firstGood?_append]
      by_cases same : page = other
      · rw [← same, first, Option.some_or]
      · simp [same]
    · intro data answer
      rw [recalls.kept, first, Option.bind_some, answer]
      rfl
  | none =>
    rw [meet, read_of_missing (recalls.kept?_of_missing first)]
    cases direct : pageOf pager.file pager.pageSize page with
    | ok data => exact recalls.keep first direct
    | error error =>
      refine recalls.append ?_ ?_
      · intro other
        rw [firstGood?_append]
        simp [Moment.good, Except.isOk, Except.toBool]
      · intro data answer
        cases answer

end Recalls

/-- A pager that keeps pages recalls all its past. -/
theorem recalls_after (file : Bytes) (pageSize : Nat) (events : List Event) :
    Recalls ((new file pageSize true).reads events) ((new file pageSize true).after events) := by
  induction events using List.reverseRecOn with
  | nil =>
    refine ⟨rfl, ?_, ?_, ?_, rfl⟩
    · intro page
      simp [after, reads, new, kept?, firstGood?]
    · intro page moment found
      cases found
    · intro moment inside
      cases inside
  | append_singleton events event ih =>
    rw [reads_append, after_append]
    cases event with
    | change other =>
      rw [show reads _ [.change other] = [] from rfl, List.append_nil]
      exact ih.change other
    | read page => exact ih.read page

/-! ## Pagers that keep nothing -/

theorem kept?_of_not_keeps {pager : Pager} (forgets : ¬ pager.Keeps) (page : PageNumber) : pager.kept? page = none := by
  have nothing : pager.cache = none := by simpa [Keeps] using forgets
  rw [kept?, nothing, Option.bind_none]

/-- A pager that keeps nothing goes on so. -/
theorem not_keeps_after {pager : Pager} (forgets : ¬ pager.Keeps) (events : List Event) :
    ¬ (pager.after events).Keeps := by
  induction events generalizing pager with
  | nil => exact forgets
  | cons event rest ih =>
    cases event with
    | change file => exact ih forgets
    | read page =>
      refine ih ?_
      rw [meet]
      rcases pager_of_read pager page with same | ⟨data, -, kept⟩
      · rwa [same]
      · rw [kept]
        simpa [Keeps, keep] using forgets

/-! ## The pages of a file -/

/-- These bytes are the page of a file with this number. -/
def IsPage (file : Bytes) (pageSize : Nat) (page : PageNumber) (data : Bytes) : Prop :=
  1 ≤ page.toNat ∧ page.toNat * pageSize ≤ file.size ∧
    data = file.extract ((page.toNat - 1) * pageSize) (page.toNat * pageSize)

theorem pageOf_eq_ok_iff_isPage {file : Bytes} {pageSize : Nat} {page : PageNumber} {data : Bytes} :
    pageOf file pageSize page = .ok data ↔ IsPage file pageSize page data := by
  rw [pageOf_eq_ok_iff, IsPage, eq_comm (a := data)]
  rfl

/-- Pages that are not kept can be read just as far as the file has whole pages now. -/
theorem exists_read_iff {pager : Pager} (sized : 0 < pager.pageSize) {page : PageNumber}
    (missing : pager.kept? page = none) :
    (∃ data, (pager.read page).1 = .ok data) ↔ 1 ≤ page.toNat ∧ page.toNat ≤ pager.pageCount := by
  rw [read_of_missing missing]
  simp only [pageOf_eq_ok_iff_isPage, IsPage, pageCount, Nat.le_div_iff_mul_le sized]
  constructor
  · rintro ⟨data, first, inside, -⟩
    exact ⟨first, inside⟩
  · rintro ⟨first, inside⟩
    exact ⟨_, first, inside, rfl⟩

/-- While the file stays as it is, all reads give what it holds. -/
theorem answers_over {file : Bytes} {pageSize : Nat} {pager : Pager} (onFile : pager.Over file pageSize)
    (pages : List PageNumber) :
    (pager.reads (pages.map .read)).map Moment.answer = pages.map (pageOf file pageSize) := by
  induction pages generalizing pager with
  | nil => rfl
  | cons page pages ih =>
    obtain ⟨answered, overNext⟩ := read_over onFile page
    rw [List.map_cons, reads, List.map_cons, List.map_cons, answered, meet, ih overNext]

/-- The first pages of a file one behind the other are the start of the file. -/
theorem concat_pages (file : Bytes) (pageSize count : Nat) :
    Bytes.concat ((List.range count).map fun i => file.extract (i * pageSize) ((i + 1) * pageSize)) =
      file.extract 0 (count * pageSize) := by
  induction count with
  | zero => simp
  | succ count ih =>
    have next : count * pageSize ≤ (count + 1) * pageSize := Nat.mul_le_mul_right _ (Nat.le_succ _)
    rw [List.range_succ, List.map_append, Bytes.concat_append, ih, List.map_singleton, Bytes.concat_cons,
      Bytes.concat_nil, Array.append_empty, Bytes.extract_append_extract ⟨Nat.zero_le _, next⟩]

/-- Read one by one, the pages from the first on are the start of a file that stays as it is. -/
theorem reads_of_unchanged (file : Bytes) (pageSize : Nat) (keepPages : Bool) {count : Nat}
    (inside : count ≤ (new file pageSize keepPages).pageCount) (numbered : count < UInt32.size) :
    ∃ pages, ((new file pageSize keepPages).reads
        ((List.range count).map fun i => .read (UInt32.ofNat (i + 1)))).map Moment.answer = pages.map .ok ∧
      Bytes.concat pages = file.extract 0 (count * pageSize) := by
  refine ⟨_, ?_, concat_pages file pageSize count⟩
  have answered := answers_over (over_new file pageSize keepPages) ((List.range count).map fun i => UInt32.ofNat (i + 1))
  rw [List.map_map] at answered
  refine answered.trans ?_
  rw [List.map_map, List.map_map]
  refine List.map_congr_left fun i below => ?_
  have low : i < count := List.mem_range.1 below
  have number : (UInt32.ofNat (i + 1)).toNat = i + 1 := UInt32.toNat_ofNat_of_lt' (by omega)
  have whole : (i + 1) * pageSize ≤ file.size :=
    (Nat.mul_le_mul_right _ (show i + 1 ≤ file.size / pageSize from Nat.le_trans low inside)).trans (Nat.div_mul_le_self _ _)
  refine pageOf_eq_ok_iff_isPage.2 ⟨?_, ?_, ?_⟩ <;> rw [number]
  · omega
  · exact whole
  · rfl

/-- However its file is changed between the reads, a pager gives whole pages, and a read that fails leaves no trace.
With a cache a page is the one that the file held when the page was first read with success, from then on and for
ever, and so many pages are kept as were read with success; without a cache it is the one that the file holds now.
What is not kept can be read just as far as the file has whole pages now, so that the pages of a file that stays as
it is make up the file as far as it is whole. -/
theorem reads_of_changing_file (file : Bytes) (pageSize : Nat) (events : List Event) (page : PageNumber) :
    let keeping := (new file pageSize true).after events
    let past := (new file pageSize true).reads events
    let plain := (new file pageSize false).after events
    let now := fileAfter file events
    (∀ data, (keeping.read page).1 = .ok data ↔
      IsPage (((firstGood? past page).map Moment.file).getD now) pageSize page data) ∧
      (∀ moment ∈ past, moment.page = page → ∀ data, moment.answer = .ok data → (keeping.read page).1 = .ok data) ∧
      keeping.cachedPages = (goodPages past).card ∧
      (∀ data, (plain.read page).1 = .ok data ↔ IsPage now pageSize page data) ∧
      (∀ pager, pager = keeping ∨ pager = plain →
        (∀ data, (pager.read page).1 = .ok data → data.size = pageSize) ∧
        (∀ error, (pager.read page).1 = .error error → (pager.read page).2 = pager) ∧
        (0 < pageSize → pager.kept? page = none →
          ((∃ data, (pager.read page).1 = .ok data) ↔ 1 ≤ page.toNat ∧ page.toNat ≤ pager.pageCount))) ∧
      ∀ keepPages count, count ≤ (new file pageSize keepPages).pageCount → count < UInt32.size →
        ∃ pages, ((new file pageSize keepPages).reads
            ((List.range count).map fun i => .read (UInt32.ofNat (i + 1)))).map Moment.answer = pages.map .ok ∧
          Bytes.concat pages = file.extract 0 (count * pageSize) := by
  intro keeping past plain now
  have recalls : Recalls past keeping := recalls_after file pageSize events
  have kept : (keeping.read page).1 = pageOf (((firstGood? past page).map Moment.file).getD now) pageSize page := by
    have answered := recalls.answer_eq page
    rwa [(file_after _ events).1, (file_after _ events).2] at answered
  have direct : (plain.read page).1 = pageOf now pageSize page := by
    have forgets : ¬ (new file pageSize false).Keeps := by simp [Keeps, new]
    rw [read_of_missing (kept?_of_not_keeps (not_keeps_after forgets events) page), (file_after _ events).1,
      (file_after _ events).2]
    rfl
  refine ⟨?_, ?_, recalls.count, ?_, ?_, ?_⟩
  · intro data
    rw [kept, pageOf_eq_ok_iff_isPage]
  · rintro moment inside rfl data given
    exact recalls.answer_again inside given
  · intro data
    rw [direct, pageOf_eq_ok_iff_isPage]
  · intro pager either
    have sized : pager.pageSize = pageSize := by
      rcases either with rfl | rfl <;> exact (file_after _ events).2
    refine ⟨?_, fun error failed => pager_of_failed failed, ?_⟩
    · intro data given
      rcases either with rfl | rfl
      · exact size_of_pageOf (kept.symm.trans given)
      · exact size_of_pageOf (direct.symm.trans given)
    · intro positive missing
      exact exists_read_iff (sized ▸ positive) missing
  · intro keepPages count inside numbered
    exact reads_of_unchanged file pageSize keepPages inside numbered

end SqliteReader.Pager
