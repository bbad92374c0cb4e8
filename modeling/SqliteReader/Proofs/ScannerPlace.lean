import SqliteReader.Proofs.Image
import SqliteReader.Proofs.TableRecords
import SqliteReader.Proofs.WalkLength

/-!
# A scanner as a place in its table

A scanner goes through the records that the walk over its table meets, with the errors among them. It is a place in this
one sequence: every call gives what stands at the place and moves it (`Answers`), whatever calls came before
(`scanner_keeps_place`). The errors of what is passed over are given out beside that, each once. The flag for the end
stands for nothing but a spent cursor (`At.ended`), so it changes no reply (`scan_unflagged`).

Only a batch too large for a list to have room for it ends the program, however few records are left
(`batch_without_room`).
-/
namespace SqliteReader

namespace Cursor

theorem root_enter {cursor entered : Cursor} {page : Page} (read : cursor.enter page = .ok entered) :
    entered.root = cursor.root := by
  unfold enter at read
  split at read <;> cases read <;> rfl

theorem root_visit (cursor : Cursor) (page : PageNumber) (pager : Pager) :
    (cursor.visit page pager).2.1.root = cursor.root := by
  unfold visit
  split
  · rfl
  · dsimp only
    split
    · next entered read =>
      obtain ⟨data, -, read⟩ := Outcomes.ok_of_bind read
      obtain ⟨page, -, read⟩ := Outcomes.ok_of_bind read
      have kept := root_enter read
      exact kept
    · rfl

/-- The walk has come to its end: no row is at hand, and no page is to come. -/
structure Spent (cursor : Cursor) : Prop where
  noRows : cursor.pending = []
  noPages : cursor.stack = []

theorem next_of_spent {cursor : Cursor} (spent : cursor.Spent) (pager : Pager) :
    cursor.next pager = (.ok none, cursor, pager) := by
  obtain ⟨noRows, noPages⟩ := spent
  unfold next
  split
  · next cell pending some =>
    rw [noRows] at some
    cases some
  · split
    · rfl
    · next page stack some =>
      rw [noPages] at some
      cases some

/-- A walk keeps its root, and when it gives no row it has come to its end. -/
theorem next_keeps (cursor : Cursor) (pager : Pager) :
    (cursor.next pager).2.1.root = cursor.root ∧ ((cursor.next pager).1 = .ok none → (cursor.next pager).2.1.Spent) := by
  fun_induction Cursor.next cursor pager with
  | case1 cursor pager cell pending isCons => exact ⟨rfl, fun none => by cases none⟩
  | case2 cursor pager noRows noPages => exact ⟨rfl, fun _ => ⟨noRows, noPages⟩⟩
  | case3 cursor pager noRows page stack top error failed later visited =>
    have root := root_visit { cursor with stack } page pager
    rw [visited] at root
    exact ⟨root, fun none => by cases none⟩
  | case4 cursor pager noRows page stack top entered later visited ih =>
    have root := root_visit { cursor with stack } page pager
    rw [visited] at root
    exact ⟨ih.1.trans root, ih.2⟩

theorem left_of_spent (load : PageNumber → Except Error Bytes) {cursor : Cursor} (spent : cursor.Spent) :
    cursor.left load = [] := by simp [left, ahead, spent.noRows, spent.noPages]

/-- At its end a walk has set aside all that it passes over. -/
theorem passed_of_spent (load : PageNumber → Except Error Bytes) {cursor : Cursor} (spent : cursor.Spent) :
    cursor.passed load = cursor.skipped := by simp [passed, ahead, spent.noPages]

end Cursor

namespace Scanner

/-- What a scanner can be asked for. -/
inductive Call
  | scan
  /-- The next item, of the scanner as an iterator. -/
  | next
  | batch (size : Nat)
  | takeSkipped
  | reset

/-- What a scanner replies. -/
inductive Reply
  | record (outcome : Except Error (Option Record))
  | item (item : Option (Except Error Record))
  | batch (outcome : Except Error (List Record))
  | skipped (errors : List Error)
  | done

/-- There can be a list as long as is asked for. -/
def Call.HasRoom : Call → Prop
  | .batch size => size * recordWidth ≤ listRoom
  | _ => True

instance : DecidablePred Call.HasRoom
  | .batch size => inferInstanceAs (Decidable (size * recordWidth ≤ listRoom))
  | .scan | .next | .takeSkipped | .reset => inferInstanceAs (Decidable True)

/-- The reply to a call, with the scanner and the pager behind it, unless the call ends the program. -/
def reply (scanner : Scanner) (pager : Pager) : Call → Option (Reply × Scanner × Pager)
  | .scan => some ((scanner.scan pager).map .record id)
  | .next => some ((scanner.next pager).map .item id)
  | .batch size => (scanner.batch pager size).map (Prod.map .batch id)
  | .takeSkipped => some (.skipped scanner.takeSkipped.1, scanner.takeSkipped.2, pager)
  | .reset => some (.done, scanner.reset, pager)

/-- The replies to calls one after the other. -/
def replies (scanner : Scanner) (pager : Pager) : List Call → Option (List Reply)
  | [] => some []
  | call :: calls => do
    let (reply, scanner, pager) ← scanner.reply pager call
    return reply :: (← scanner.replies pager calls)

theorem hasRoom_batch {size : Nat} : (Call.batch size).HasRoom ↔ size < 2 ^ 57 := by
  have room : listRoom = 2 ^ 63 - 1 := by decide
  show size * recordWidth ≤ listRoom ↔ _
  rw [room, recordWidth]
  omega

/-- A call ends the program just when there can be no list as long as it asks for. -/
theorem reply_eq_none_iff {scanner : Scanner} {pager : Pager} {call : Call} :
    scanner.reply pager call = none ↔ ¬ call.HasRoom := by
  cases call <;> simp [reply, Call.HasRoom, batch]

/-- A place in the sequence of records. -/
structure Place where
  /-- The number of records and errors before it. -/
  index : Nat
  /-- The errors that were given out since the start. -/
  given : List Error
  /-- Whether the end was met since the start. -/
  ended : Bool

namespace Place

/-- The place before the first record. -/
def start : Place := ⟨0, [], false⟩

/-- The place so many records on, with the end met on the way there or not. -/
def behind (here : Place) (count : Nat) (ended : Bool) : Place :=
  { here with index := here.index + count, ended := here.ended || ended }

@[simp] theorem behind_zero (here : Place) : here.behind 0 false = here := by simp [behind]

@[simp] theorem behind_behind (here : Place) (count more : Nat) (ended past : Bool) :
    (here.behind count ended).behind more past = here.behind (count + more) (ended || past) := by
  simp [behind, Nat.add_assoc, Bool.or_assoc]

section
variable {α : Type} {all rest : List α} {a : α} {here : Place} (met : all.drop here.index = a :: rest)
include met

theorem getElem?_of_met : all[here.index]? = some a := by rw [← List.head?_drop, met, List.head?_cons]

theorem drop_behind_one : all.drop (here.behind 1 false).index = rest := by
  rw [behind, ← List.tail_drop, met, List.tail_cons]

theorem take_behind_one : all.take (here.behind 1 false).index = all.take here.index ++ [a] := by
  rw [behind, List.take_add_one, getElem?_of_met met, Option.toList_some]

end

end Place

section
variable (all : List (Except Error Record)) (passed : List Error)

/-- A call at a place is replied to with what stands there in the sequence `all`, and leads to a place behind it. In all
the errors `passed` are given out. -/
inductive Answers (here : Place) : Call → Reply → Place → Prop
  /-- The next record or error, also when it is an error. -/
  | scan {outcome : Except Error Record} (there : all[here.index]? = some outcome) :
    Answers here .scan (.record (outcome.map some)) (here.behind 1 false)
  | scanEnd (past : all.length ≤ here.index) : Answers here .scan (.record (.ok none)) (here.behind 0 true)
  /-- The same, as an item. -/
  | next {outcome : Except Error Record} (there : all[here.index]? = some outcome) :
    Answers here .next (.item (some outcome)) (here.behind 1 false)
  | nextEnd (past : all.length ≤ here.index) : Answers here .next (.item none) (here.behind 0 true)
  /-- The next records, as many as asked for or all that are left. -/
  | batch {size : Nat} {records : List Record} (met : (all.drop here.index).take size = records.map .ok) :
    Answers here (.batch size) (.batch (.ok records)) (here.behind records.length (records.length < size))
  /-- The first error among them. The records before it are left behind. -/
  | batchError {size : Nat} {before : List Record} {error : Error} {rest : List (Except Error Record)}
    (met : (all.drop here.index).take size = before.map .ok ++ .error error :: rest) :
    Answers here (.batch size) (.batch (.error error)) (here.behind (before.length + 1) false)
  /-- Together with those given out before, the errors are the first ones of the table; behind the end, all of them. -/
  | takeSkipped {errors : List Error} (first : here.given ++ errors <+: passed)
    (complete : here.ended = true → here.given ++ errors = passed) :
    Answers here .takeSkipped (.skipped errors) { here with given := here.given ++ errors }
  | reset : Answers here .reset .done .start

/-- Calls are replied to one after the other, each at the place behind the one before. -/
inductive Follows : Place → List Call → List Reply → Prop
  | nil {here : Place} : Follows here [] []
  | cons {here next : Place} {call : Call} {reply : Reply} {calls : List Call} {replies : List Reply}
    (first : Answers all passed here call reply next) (rest : Follows next calls replies) :
    Follows here (call :: calls) (reply :: replies)

variable {all passed}

/-- The place settles the reply and the next place. Only how many errors are given out before the end is left open. -/
theorem Answers.unique {here next next' : Place} {call : Call} {reply reply' : Reply}
    (settled : call ≠ .takeSkipped ∨ here.ended = true) (answers : Answers all passed here call reply next)
    (answers' : Answers all passed here call reply' next') : reply = reply' ∧ next = next' := by
  cases answers with
  | scan there =>
    cases answers' with
    | scan there' =>
      rw [there] at there'
      cases there'
      exact ⟨rfl, rfl⟩
    | scanEnd past =>
      rw [List.getElem?_eq_none past] at there
      cases there
  | scanEnd past =>
    cases answers' with
    | scan there =>
      rw [List.getElem?_eq_none past] at there
      cases there
    | scanEnd => exact ⟨rfl, rfl⟩
  | next there =>
    cases answers' with
    | next there' =>
      rw [there] at there'
      cases there'
      exact ⟨rfl, rfl⟩
    | nextEnd past =>
      rw [List.getElem?_eq_none past] at there
      cases there
  | nextEnd past =>
    cases answers' with
    | next there =>
      rw [List.getElem?_eq_none past] at there
      cases there
    | nextEnd => exact ⟨rfl, rfl⟩
  | @batch _ records met =>
    have given := (Outcomes.collect_eq_ok_iff _ records).2 met
    cases answers' with
    | @batch _ records' met' =>
      rw [(Outcomes.collect_eq_ok_iff _ records').2 met'] at given
      cases given
      exact ⟨rfl, rfl⟩
    | batchError met' =>
      rw [(Outcomes.collect_eq_error_iff _ _).2 ⟨_, _, met'⟩] at given
      cases given
  | batchError met =>
    cases answers' with
    | @batch _ records met' =>
      have given := (Outcomes.collect_eq_ok_iff _ records).2 met'
      rw [(Outcomes.collect_eq_error_iff _ _).2 ⟨_, _, met⟩] at given
      cases given
    | batchError met' =>
      obtain ⟨rfl, rfl⟩ := Outcomes.first_failure_unique (met.symm.trans met')
      exact ⟨rfl, rfl⟩
  | takeSkipped first complete =>
    cases answers' with
    | takeSkipped first' complete' =>
      have ended : here.ended = true := settled.resolve_left fun other => other rfl
      obtain rfl := List.append_cancel_left ((complete ended).trans (complete' ended).symm)
      exact ⟨rfl, rfl⟩
  | reset =>
    cases answers'
    exact ⟨rfl, rfl⟩

/-- When the place settles the reply to the first call, the replies begin with it. -/
theorem Follows.of_answers {here next : Place} {call : Call} {calls : List Call} {reply : Reply} {replies : List Reply}
    (follows : Follows all passed here (call :: calls) replies)
    (settled : call ≠ .takeSkipped ∨ here.ended = true) (answers : Answers all passed here call reply next) :
    ∃ rest, replies = reply :: rest ∧ Follows all passed next calls rest := by
  cases follows with
  | @cons _ _ _ _ _ rest first follows =>
    obtain ⟨rfl, rfl⟩ := answers.unique settled first
    exact ⟨rest, rfl, follows⟩

end

section
variable (load : PageNumber → Except Error Bytes) (root : PageNumber)

/-- The scanner stands at this place of the table at `root`. -/
structure At (here : Place) (scanner : Scanner) : Prop where
  rooted : scanner.cursor.root = root
  /-- What is behind the place is what the cursor has left. -/
  left : (scanner.cursor.left load).map (·.bind Record.ofCell) = (recordsMet load root).drop here.index
  /-- What was not given out is what the cursor has still to pass over, or has set aside. -/
  passed : here.given ++ scanner.cursor.passed load = passedOver load root
  /-- The records before the place have been counted. -/
  counted : scanner.scanned = (Outcomes.results ((recordsMet load root).take here.index)).length
  flagged : scanner.isExhausted = here.ended
  ended : here.ended = true → scanner.cursor.Spent

theorem at_new (tableName : String) : At load root .start (new tableName root) where
  rooted := rfl
  left := by rw [new, Cursor.left_new]; rfl
  passed := by rw [new, Cursor.passed_new]; rfl
  counted := rfl
  flagged := rfl
  ended := nofun

end

/-- Without its flag a scanner gives the same, as long as the flag is set only when the cursor is spent. -/
theorem scan_unflagged {scanner : Scanner} (ends : scanner.isExhausted = true → scanner.cursor.Spent) (pager : Pager) :
    ({ scanner with isExhausted := false } : Scanner).scan pager = scanner.scan pager := by
  cases flag : scanner.isExhausted with
  | false => rw [← flag]
  | true =>
    rw [scan_of_exhausted flag, scan, if_neg Bool.false_ne_true, Cursor.next_of_spent (ends flag)]
    show (_, { scanner with isExhausted := true }, _) = _
    rw [← flag]

section
variable {file : Bytes} {pageSize : Nat} {root : PageNumber} {pager : Pager}

/-- What a scanner at a place gives, and where it stands then. -/
inductive Scanned (file : Bytes) (pageSize : Nat) (root : PageNumber) (here : Place) :
    Except Error (Option Record) → Scanner → Prop
  | item {outcome : Except Error Record} {behind : List (Except Error Record)} {later : Scanner}
    (met : (recordsMet (pageOf file pageSize) root).drop here.index = outcome :: behind)
    (stands : At (pageOf file pageSize) root (here.behind 1 false) later) :
    Scanned file pageSize root here (outcome.map some) later
  | past {later : Scanner} (met : (recordsMet (pageOf file pageSize) root).drop here.index = [])
    (stands : At (pageOf file pageSize) root (here.behind 0 true) later) :
    Scanned file pageSize root here (.ok none) later

theorem scanned_of_at (onFile : pager.Over file pageSize) {here : Place} {scanner : Scanner}
    (stands : At (pageOf file pageSize) root here scanner) :
    (scanner.scan pager).2.2.Over file pageSize ∧
      Scanned file pageSize root here (scanner.scan pager).1 (scanner.scan pager).2.1 := by
  obtain ⟨sameRoot, left, passed, counted, flagged, ended⟩ := stands
  obtain ⟨rooted, ends⟩ := Cursor.next_keeps scanner.cursor pager
  rcases walked : scanner.cursor.next pager with ⟨given, cursor, pager'⟩
  obtain ⟨overNext, stepped⟩ := Cursor.stepped_of_next onFile walked
  rw [walked] at rooted ends
  dsimp only at rooted ends
  rw [← scan_unflagged (fun flag => ended (flagged.symm.trans flag)), scan, if_neg Bool.false_ne_true]
  simp only [walked]
  -- A record and an error in its place move the scanner alike.
  have item (outcome : Except Error Record)
      (met : (scanner.cursor.left (pageOf file pageSize)).map (·.bind Record.ofCell) =
        outcome :: (cursor.left (pageOf file pageSize)).map (·.bind Record.ofCell))
      (samePassed : cursor.passed (pageOf file pageSize) = scanner.cursor.passed (pageOf file pageSize)) :
      Scanned file pageSize root here (outcome.map some)
        ⟨scanner.tableName, cursor, scanner.scanned + (Outcomes.results [outcome]).length, false⟩ := by
    have notEnded : here.ended ≠ true := fun past => by
      rw [Cursor.left_of_spent _ (ended past)] at met
      cases met
    rw [left] at met
    refine .item met ⟨rooted.trans sameRoot, (Place.drop_behind_one met).symm, ?_, ?_, ?_, ?_⟩
    · rw [← passed, ← samePassed]
      rfl
    · rw [Place.take_behind_one met, Outcomes.results_append, List.length_append, ← counted]
    · simp [Place.behind, notEnded]
    · intro past
      exact absurd (by simpa [Place.behind] using past) notEnded
  rcases given with error | _ | cell
  · obtain ⟨next, same⟩ := stepped
    exact ⟨overNext, item (.error error) (by rw [next]; rfl) same⟩
  · obtain ⟨nothing, nothingLeft, skipped⟩ := stepped
    rw [nothing] at left
    refine ⟨overNext, .past left.symm ⟨rooted.trans sameRoot, ?_, ?_, counted, ?_, fun _ => ends rfl⟩⟩
    · rw [nothingLeft, Place.behind, Nat.add_zero, ← left]
    · show here.given ++ cursor.passed (pageOf file pageSize) = _
      rw [Cursor.passed_of_spent _ (ends rfl), skipped, passed]
    · exact (Bool.or_true here.ended).symm
  · obtain ⟨next, same⟩ := stepped
    have given := item (Record.ofCell cell) (by rw [next]; rfl) same
    cases read : Record.ofCell cell <;> simp only [read] at given ⊢ <;> exact ⟨overNext, given⟩

/-- A record at the place comes before the batch behind it. -/
theorem Answers.batch_cons {all : List (Except Error Record)} {passed : List Error} {here next : Place} {record : Record}
    {rest : List (Except Error Record)} (met : all.drop here.index = .ok record :: rest) {size : Nat}
    {outcome : Except Error (List Record)}
    (answers : Answers all passed (here.behind 1 false) (.batch size) (.batch outcome) next) :
    Answers all passed here (.batch (size + 1)) (.batch (outcome.map (record :: ·))) next := by
  have behind := Place.drop_behind_one met
  have taken : (all.drop here.index).take (size + 1) = .ok record :: rest.take size := by rw [met, List.take_succ_cons]
  cases answers with
  | @batch _ records there =>
    rw [behind] at there
    have same : here.behind (record :: records).length (decide ((record :: records).length < size + 1)) =
        (here.behind 1 false).behind records.length (decide (records.length < size)) := by simp [Nat.add_comm]
    rw [← same]
    exact .batch (by rw [taken, there, List.map_cons])
  | @batchError _ before error _ there =>
    rw [behind] at there
    have same : here.behind ((record :: before).length + 1) false =
        (here.behind 1 false).behind (before.length + 1) false := by simp [Nat.add_comm]
    rw [← same]
    exact .batchError (by rw [taken, there, List.map_cons, List.cons_append])

/-- A batch begins with the record at the place and goes on behind it. -/
theorem take_answers (onFile : pager.Over file pageSize) (size : Nat) {here : Place} {scanner : Scanner}
    (stands : At (pageOf file pageSize) root here scanner) :
    (scanner.take pager size).2.2.Over file pageSize ∧ ∃ next,
      Answers (recordsMet (pageOf file pageSize) root) (passedOver (pageOf file pageSize) root) here (.batch size)
        (.batch (scanner.take pager size).1) next ∧
      At (pageOf file pageSize) root next (scanner.take pager size).2.1 := by
  induction size generalizing here scanner pager with
  | zero =>
    have none : ((recordsMet (pageOf file pageSize) root).drop here.index).take 0 = ([] : List Record).map .ok := rfl
    refine ⟨onFile, _, .batch none, ?_⟩
    rw [take]
    simpa using stands
  | succ size ih =>
    obtain ⟨overNext, scanned⟩ := scanned_of_at onFile stands
    rw [take]
    rcases given : scanner.scan pager with ⟨result, later, pager'⟩
    rw [given] at overNext scanned
    dsimp only at overNext scanned
    cases scanned with
    | past met stands =>
      have none : ((recordsMet (pageOf file pageSize) root).drop here.index).take (size + 1) =
          ([] : List Record).map .ok := by rw [met]; rfl
      refine ⟨overNext, _, .batch none, ?_⟩
      simpa using stands
    | @item outcome behind _ met stands =>
      cases outcome with
      | error error =>
        have first : ((recordsMet (pageOf file pageSize) root).drop here.index).take (size + 1) =
            ([] : List Record).map .ok ++ .error error :: behind.take size := by rw [met]; rfl
        exact ⟨overNext, _, .batchError first, stands⟩
      | ok record =>
        obtain ⟨overEnd, next, answers, stands⟩ := ih overNext stands
        exact ⟨overEnd, next, answers.batch_cons met, stands⟩

/-- The reply to a call is what stands at the place of the scanner, which stands at the next place then. -/
theorem reply_answers (onFile : pager.Over file pageSize) {call : Call} (room : call.HasRoom) {here : Place}
    {scanner : Scanner} (stands : At (pageOf file pageSize) root here scanner) :
    ∃ reply later pager' next, scanner.reply pager call = some (reply, later, pager') ∧ pager'.Over file pageSize ∧
      Answers (recordsMet (pageOf file pageSize) root) (passedOver (pageOf file pageSize) root) here call reply next ∧
      At (pageOf file pageSize) root next later := by
  cases call with
  | scan =>
    obtain ⟨overNext, scanned⟩ := scanned_of_at onFile stands
    rcases given : scanner.scan pager with ⟨result, later, pager'⟩
    rw [given] at overNext scanned
    refine ⟨.record result, later, pager', ?_⟩
    cases scanned with
    | past met stands => exact ⟨_, by rw [reply, given]; rfl, overNext, .scanEnd (List.drop_eq_nil_iff.1 met), stands⟩
    | item met stands => exact ⟨_, by rw [reply, given]; rfl, overNext, .scan (Place.getElem?_of_met met), stands⟩
  | next =>
    obtain ⟨overNext, scanned⟩ := scanned_of_at onFile stands
    rcases given : scanner.scan pager with ⟨result, later, pager'⟩
    rw [given] at overNext scanned
    rw [reply, next, given]
    cases scanned with
    | past met stands => exact ⟨_, later, pager', _, rfl, overNext, .nextEnd (List.drop_eq_nil_iff.1 met), stands⟩
    | @item outcome _ _ met stands =>
      have there := Place.getElem?_of_met met
      cases outcome <;> exact ⟨_, later, pager', _, rfl, overNext, .next there, stands⟩
  | batch size =>
    obtain ⟨overNext, next, answers, stands⟩ := take_answers onFile size stands
    have enough : size * recordWidth ≤ listRoom := room
    exact ⟨_, _, _, next, by rw [reply, batch, if_pos enough]; rfl, overNext, answers, stands⟩
  | takeSkipped =>
    obtain ⟨rooted, left, passed, counted, flagged, ended⟩ := stands
    refine ⟨_, _, _, _, rfl, onFile, .takeSkipped ?_ fun past => ?_, rooted, left, ?_, counted, flagged, fun past => ?_⟩
    · rw [← passed]
      exact ⟨_, List.append_assoc _ _ _⟩
    · rw [← passed, Cursor.passed_of_spent _ (ended past)]
      rfl
    · rw [← passed]
      exact List.append_assoc _ _ _
    · obtain ⟨noRows, noPages⟩ := ended past
      exact ⟨noRows, noPages⟩
  | reset =>
    refine ⟨_, _, _, _, rfl, onFile, .reset, ?_⟩
    rw [← stands.rooted]
    exact at_new (pageOf file pageSize) scanner.cursor.root scanner.tableName

theorem follows_of_at (onFile : pager.Over file pageSize) {calls : List Call} (room : ∀ call ∈ calls, call.HasRoom)
    {here : Place} {scanner : Scanner} (stands : At (pageOf file pageSize) root here scanner) :
    ∃ replies, scanner.replies pager calls = some replies ∧
      Follows (recordsMet (pageOf file pageSize) root) (passedOver (pageOf file pageSize) root) here calls replies := by
  induction calls generalizing here scanner pager with
  | nil => exact ⟨[], rfl, .nil⟩
  | cons call calls ih =>
    obtain ⟨hasRoom, room⟩ := List.forall_mem_cons.1 room
    obtain ⟨reply, later, pager', next, replied, overNext, answers, stands⟩ := reply_answers onFile hasRoom stands
    obtain ⟨rest, repliedRest, follows⟩ := ih overNext room stands
    refine ⟨reply :: rest, ?_, .cons answers follows⟩
    simp [replies, replied, repliedRest]

end

/-- A call without room ends the program, and no reply is left of the others. -/
theorem replies_eq_none {calls : List Call} {call : Call} (inside : call ∈ calls) (noRoom : ¬ call.HasRoom)
    (scanner : Scanner) (pager : Pager) : scanner.replies pager calls = none := by
  induction calls generalizing scanner pager with
  | nil => cases inside
  | cons first calls ih =>
    rw [replies]
    rcases List.mem_cons.1 inside with rfl | inside
    · rw [reply_eq_none_iff.2 noRoom]
      rfl
    · cases scanner.reply pager first with
      | none => rfl
      | some given => simp [ih inside]

/-- Whatever a scanner is asked for and in whatever order, its replies are what stands at its place in the sequence of
the records of its table, with their errors; errors of what is passed over are given out once between two resets. Only
a batch that is larger than any list can be ends the program instead, also when few records are left or none. -/
theorem scanner_keeps_place {file : Bytes} {pageSize : Nat} {pager : Pager} (onFile : pager.Over file pageSize)
    (tableName : String) (root : PageNumber) (calls : List Call) :
    ((∀ call ∈ calls, call.HasRoom) → ∃ replies, (new tableName root).replies pager calls = some replies ∧
      Follows (recordsMet (pageOf file pageSize) root) (passedOver (pageOf file pageSize) root) .start calls replies) ∧
    ((∃ call ∈ calls, ¬ call.HasRoom) → (new tableName root).replies pager calls = none) := by
  refine ⟨fun room => follows_of_at onFile room (at_new (pageOf file pageSize) root tableName), ?_⟩
  rintro ⟨call, inside, noRoom⟩
  exact replies_eq_none inside noRoom (new tableName root) pager

/-- A table whose second row holds no record, with a pointer that leads nowhere behind it. -/
def spoiltTable : Bytes := #[13, 0, 0, 0, 4, 0, 16, 0, 0, 16, 0, 20, 0, 0, 0, 24, 2, 7, 2, 0, 2, 8, 2, 10, 2, 9, 2, 8]

/-- A file with an empty catalog and this table. -/
def spoiltFile : Bytes := smallFile #[13, 0, 0, 0, 0, 2, 0, 0] [spoiltTable]

/-- Its third row. -/
def spoiltLast : Record := ⟨9, ⟨2, [⟨.zero, 2, 0⟩]⟩, #[2, 8]⟩

theorem met_spoiltFile :
    recordsMet (pageOf spoiltFile 512) 2 = [.ok keyShort, .error (.unsupportedSerialType 10), .ok spoiltLast] ∧
      passedOver (pageOf spoiltFile 512) 2 = [.outOfBounds (.cellPointer 2) 0 512] := by
  have loaded : pageOf spoiltFile 512 2 = .ok (smallPage spoiltTable) :=
    pageOf_smallFile (by decide +kernel) (by decide) rfl
  obtain ⟨rows, passed⟩ := met_of_evaluated [⟨7, 2, #[2, 0]⟩, ⟨8, 2, #[2, 10]⟩, ⟨9, 2, #[2, 8]⟩]
    [.outOfBounds (.cellPointer 2) 0 512] loaded (by decide +kernel)
  refine ⟨?_, passed⟩
  have short : Record.ofCell ⟨7, 2, #[2, 0]⟩ = .ok keyShort := Outcomes.ok_of_toOption (by decide +kernel)
  have spoilt : Record.ofCell ⟨8, 2, #[2, 10]⟩ = .error (.unsupportedSerialType 10) :=
    Outcomes.error_of_failure? (by decide +kernel)
  have last : Record.ofCell ⟨9, 2, #[2, 8]⟩ = .ok spoiltLast := Outcomes.ok_of_toOption (by decide +kernel)
  simp only [recordsMet, rows, List.map_cons, List.map_nil, Except.bind, short, spoilt, last]

/-- A batch over the spoilt row loses the row before it, and the next one goes on behind. At the end there is no record,
also when asked again, and the error of the pointer is given once. After a reset all is there again. -/
theorem scanner_keeps_place_spoilt :
    (new "t" 2).replies (.new spoiltFile 512 true)
        [.batch 3, .batch 3, .scan, .takeSkipped, .takeSkipped, .reset, .next, .next] =
      some [.batch (.error (.unsupportedSerialType 10)), .batch (.ok [spoiltLast]), .record (.ok none),
        .skipped [.outOfBounds (.cellPointer 2) 0 512], .skipped [], .done,
        .item (some (.ok keyShort)), .item (some (.error (.unsupportedSerialType 10)))] := by
  obtain ⟨replies, replied, follows⟩ := (scanner_keeps_place (Pager.over_smallFile true) "t" 2
    [.batch 3, .batch 3, .scan, .takeSkipped, .takeSkipped, .reset, .next, .next]).1 (by decide +kernel)
  refine replied.trans (congrArg some ?_)
  rw [← spoiltFile, met_spoiltFile.1, met_spoiltFile.2] at follows
  have spoilt : [.ok keyShort, .error (.unsupportedSerialType 10), .ok spoiltLast] =
      [keyShort].map Except.ok ++ Except.error (Error.unsupportedSerialType 10) :: [.ok spoiltLast] := rfl
  have last : ([.ok spoiltLast] : List (Except Error Record)) = [spoiltLast].map .ok := rfl
  obtain ⟨_, first, follows⟩ := follows.of_answers (.inl nofun) (.batchError spoilt)
  obtain ⟨_, second, follows⟩ := follows.of_answers (.inl nofun) (.batch last)
  obtain ⟨_, third, follows⟩ := follows.of_answers (.inl nofun) (.scanEnd (Nat.le_refl 3))
  obtain ⟨_, fourth, follows⟩ := follows.of_answers (.inr rfl) (.takeSkipped (List.prefix_refl _) fun _ => rfl)
  obtain ⟨_, fifth, follows⟩ := follows.of_answers (.inr rfl) (.takeSkipped (List.prefix_refl _) fun _ => rfl)
  obtain ⟨_, sixth, follows⟩ := follows.of_answers (.inl nofun) .reset
  obtain ⟨_, seventh, follows⟩ := follows.of_answers (.inl nofun) (.next rfl)
  obtain ⟨_, eighth, follows⟩ := follows.of_answers (.inl nofun) (.next rfl)
  cases follows
  rw [first, second, third, fourth, fifth, sixth, seventh, eighth]

/-- A table with one row, which holds the number five. -/
def fiveTable : ImageTable := .ofRows "t" "CREATE TABLE t(a)" [[.int8 5]]

/-- Its row. -/
def fiveRecord : Record := ⟨1, ⟨2, [⟨.int8, 2, 1⟩]⟩, #[2, 1, 5]⟩

/-- A batch of ten is the only record of the table. A batch of 2⁵⁷ should be the same, but it ends the program. -/
theorem batch_without_room : ∃ file database record, (Image.ofTables [fiveTable]).bytes = .ok file ∧
    Database.ofFile file .default = .ok database ∧ recordsMet (pageOf file 512) 2 = [.ok record] ∧
    record.values = .ok [.int8 5] ∧
    (new "t" 2).replies database.pager [.batch 10] = some [.batch (.ok [record])] ∧
    (new "t" 2).replies database.pager [.batch 144115188075855872] = none := by
  obtain ⟨file, database, built, opened, onFile, -, rows⟩ :=
    @Image.opens_ofTables [fiveTable] (by decide +kernel) (by decide +kernel)
  have scanned := rows fiveTable 2 (by decide +kernel)
  rw [(scanTable_byPages 2).answer_eq onFile, answer_scanTable] at scanned
  obtain ⟨cells, collected, same⟩ := Outcomes.ok_of_map scanned
  have sameCells : cells = fiveTable.rows.map Image.storedCell := congrArg Partial.results same
  rw [Outcomes.collect_eq_ok_iff, sameCells] at collected
  have read : (fiveTable.rows.map Image.storedCell).map Record.ofCell = [.ok fiveRecord] := by
    have cells : fiveTable.rows.map Image.storedCell = [⟨1, 3, #[2, 1, 5]⟩] := by decide +kernel
    have record : Record.ofCell ⟨1, 3, #[2, 1, 5]⟩ = .ok fiveRecord := Outcomes.ok_of_toOption (by decide +kernel)
    rw [cells, List.map_singleton, record]
  have met : recordsMet (pageOf file 512) 2 = [.ok fiveRecord] := by
    rw [recordsMet, collected, List.map_map]
    exact read
  refine ⟨file, database, fiveRecord, built, opened, met, Outcomes.ok_of_toOption (by decide +kernel), ?_, ?_⟩
  · have room : ∀ call ∈ [Call.batch 10], call.HasRoom := List.forall_mem_singleton.2 (hasRoom_batch.2 (by decide))
    have all : ([.ok fiveRecord] : List (Except Error Record)) = [fiveRecord].map .ok := rfl
    obtain ⟨replies, replied, follows⟩ := follows_of_at onFile room (at_new _ 2 "t")
    rw [met] at follows
    obtain ⟨_, first, follows⟩ := follows.of_answers (.inl nofun) (.batch all)
    cases follows
    rw [replied, first]
  · exact replies_eq_none List.mem_cons_self (hasRoom_batch.not.2 (by decide)) (new "t" 2) database.pager

end Scanner
end SqliteReader
