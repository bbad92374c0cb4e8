import SqliteReader.Proofs.FileHeader
import SqliteReader.Proofs.Operations
import SqliteReader.Sql.Parser.Statement

/-!
# Histories of operations

An open database answers questions and moves cursors, in any order and as often as one likes. What it
answered before leaves no trace but the pages it has kept, and these are pages of the file: a question is
answered as if it were the first one, a cursor as if it were alone, and keeping pages changes no answer
(`answers_without_history`).
-/
namespace SqliteReader

/-- What can be asked of an open database. -/
inductive Question
  | page (page : PageNumber)
  | entries
  | table (name : String)
  | schema (name : String)
  | tableNames
  | rows (root : PageNumber)
  | request (request : Request)
  | command (command : Command)

/-- What can be done with a cursor. -/
inductive Move
  | start (root : PageNumber)
  | next
  | takeSkipped
  | reset

/-- An operation on an open database: a question, or a move of one of its cursors. -/
inductive Operation
  | ask (question : Question)
  | move (cursor : Nat) (move : Move)

/-- Whether the operation moves this cursor. -/
def Operation.moves (cursor : Nat) : Operation → Bool
  | ask _ => false
  | move other _ => other == cursor

/-- What an operation answers. -/
inductive Answer
  | page (data : Except Error Bytes)
  | entries (entries : Except Error (Partial Entry))
  | table (found : Except Error (PageNumber × String))
  | schema (schema : Except Error TableSchema)
  | tableNames (names : Except Error (List String))
  | rows (rows : Except Error (Partial LeafCell))
  | result (result : Except Error ResultSet)
  | text (text : Except Error String)
  | row (row : Except Error (Option LeafCell))
  | skipped (errors : List Error)
  | done
  /-- There is no such cursor. -/
  | noCursor

/-- The answer to a question, and the pager behind it. -/
def Question.answer [Sql.Dialect] (question : Question) (pager : Pager) : Answer × Pager :=
  match question with
  | .page number => (pager.read number).map .page id
  | .entries => (Catalog.entries.on pager).map .entries id
  | .table name => ((Catalog.findTable name).on pager).map .table id
  | .schema name => ((Catalog.findSchema name).on pager).map .schema id
  | .tableNames => (Catalog.tableNames.on pager).map .tableNames id
  | .rows root => ((scanTable root).on pager).map .rows id
  | .request asked => (asked.execute.on pager).map .result id
  | .command given => (given.execute.on pager).map .text id

/-- What a move of a cursor answers, with the cursor and the pager behind it. -/
def Move.answer (move : Move) (cursor : Option Cursor) (pager : Pager) : Answer × Option Cursor × Pager :=
  match move, cursor with
  | .start root, _ => (.done, some (.new root), pager)
  | _, none => (.noCursor, none, pager)
  | .next, some cursor =>
    let (row, cursor, pager) := cursor.next pager
    (.row row, some cursor, pager)
  | .takeSkipped, some cursor =>
    let (errors, cursor) := cursor.takeSkipped
    (.skipped errors, some cursor, pager)
  | .reset, some cursor => (.done, some cursor.reset, pager)

/-- A database at work: its pager, and its cursors by number. -/
structure Session where
  pager : Pager
  cursors : Nat → Option Cursor

/-- The session right after a database was opened. -/
def Database.session (database : Database) : Session := ⟨database.pager, fun _ => none⟩

namespace Session
variable [Sql.Dialect]

/-- Carries out one operation. -/
def perform (session : Session) : Operation → Answer × Session
  | .ask question =>
    let (answer, pager) := question.answer session.pager
    (answer, { session with pager })
  | .move number move =>
    let (answer, cursor, pager) := move.answer (session.cursors number) session.pager
    (answer, ⟨pager, fun other => if other = number then cursor else session.cursors other⟩)

/-- The answers to a history of operations. -/
def answers (session : Session) : List Operation → List Answer
  | [] => []
  | operation :: rest => (session.perform operation).1 :: (session.perform operation).2.answers rest

/-- Those among the answers to a history that one cursor gives. -/
def answersOf (session : Session) (cursor : Nat) (history : List Operation) : List Answer :=
  ((history.zip (session.answers history)).filter (·.1.moves cursor)).map Prod.snd

end Session

section
variable {file : Bytes} {pageSize : Nat} {pager pager' : Pager}

/-- A question is answered alike on all pagers over one file. -/
theorem Question.answer_same [Sql.Dialect] (question : Question) (onFile : pager.Over file pageSize)
    (onFile' : pager'.Over file pageSize) :
    (question.answer pager).1 = (question.answer pager').1 ∧ (question.answer pager).2.Over file pageSize := by
  have byPages {α : Type} {reading : Reading α} (reads : Reading.ByPages reading) (wrap : Except Error α → Answer) :
      ((reading.on pager).map wrap id).1 = ((reading.on pager').map wrap id).1 ∧
        ((reading.on pager).map wrap id).2.Over file pageSize := by
    obtain ⟨same, overNext⟩ := reads.same onFile onFile'
    exact ⟨congrArg wrap same, overNext⟩
  cases question with
  | page number =>
    obtain ⟨answered, overNext⟩ := Pager.read_over onFile number
    exact ⟨congrArg Answer.page (answered.trans (Pager.read_over onFile' number).1.symm), overNext⟩
  | entries => exact byPages Catalog.entries_byPages .entries
  | table name => exact byPages (Catalog.findTable_byPages name) .table
  | schema name => exact byPages (Catalog.findSchema_byPages name) .schema
  | tableNames => exact byPages Catalog.tableNames_byPages .tableNames
  | rows root => exact byPages (scanTable_byPages root) .rows
  | request asked => exact byPages asked.execute_byPages .result
  | command given => exact byPages given.execute_byPages .text

/-- A cursor moves alike on all pagers over one file. -/
theorem Move.answer_same (move : Move) (cursor : Option Cursor) (onFile : pager.Over file pageSize)
    (onFile' : pager'.Over file pageSize) :
    (move.answer cursor pager).1 = (move.answer cursor pager').1 ∧
      (move.answer cursor pager).2.1 = (move.answer cursor pager').2.1 ∧
      (move.answer cursor pager).2.2.Over file pageSize := by
  cases cursor with
  | none => cases move <;> exact ⟨rfl, rfl, onFile⟩
  | some cursor =>
    cases move with
    | next =>
      obtain ⟨sameRow, sameCursor⟩ := cursor.next_same onFile onFile'
      exact ⟨congrArg Answer.row sameRow, congrArg some sameCursor, (Cursor.next_stepped onFile cursor).1⟩
    | start root => exact ⟨rfl, rfl, onFile⟩
    | takeSkipped => exact ⟨rfl, rfl, onFile⟩
    | reset => exact ⟨rfl, rfl, onFile⟩

end

namespace Session
variable [Sql.Dialect] {file : Bytes} {pageSize : Nat} {session session' : Session}

/-- Sessions over one file whose cursors are the same answer alike, and stay so. -/
theorem perform_same (onFile : session.pager.Over file pageSize) (onFile' : session'.pager.Over file pageSize)
    (cursors : session.cursors = session'.cursors) (operation : Operation) :
    (session.perform operation).1 = (session'.perform operation).1 ∧
      (session.perform operation).2.pager.Over file pageSize ∧
      (session.perform operation).2.cursors = (session'.perform operation).2.cursors := by
  cases operation with
  | ask question =>
    obtain ⟨same, overNext⟩ := question.answer_same onFile onFile'
    exact ⟨same, overNext, cursors⟩
  | move number move =>
    obtain ⟨same, sameCursor, overNext⟩ := move.answer_same (session.cursors number) onFile onFile'
    refine ⟨?_, overNext, ?_⟩
    · rw [cursors] at same
      simpa only [perform, cursors] using same
    · funext other
      by_cases moved : other = number
      · simpa [perform, moved, ← cursors] using sameCursor
      · simp [perform, moved, cursors]

theorem answers_same (onFile : session.pager.Over file pageSize) (onFile' : session'.pager.Over file pageSize)
    (cursors : session.cursors = session'.cursors) (history : List Operation) :
    session.answers history = session'.answers history := by
  induction history generalizing session session' with
  | nil => rfl
  | cons operation rest ih =>
    obtain ⟨same, overNext, cursorsNext⟩ := perform_same onFile onFile' cursors operation
    obtain ⟨-, overNext', -⟩ := perform_same onFile' onFile cursors.symm operation
    rw [answers, answers, same, ih overNext overNext' cursorsNext]

/-- A question gets the answer it gets on any pager over the file, whatever came before it. -/
theorem answers_ask (onFile : session.pager.Over file pageSize) {pager : Pager} (onFile' : pager.Over file pageSize)
    {history : List Operation} {i : Nat} {question : Question} (asked : history[i]? = some (.ask question)) :
    (session.answers history)[i]? = some (question.answer pager).1 := by
  induction history generalizing session i with
  | nil => simp at asked
  | cons operation rest ih =>
    obtain ⟨-, overNext, -⟩ := perform_same onFile onFile rfl operation
    cases i with
    | zero =>
      obtain rfl : operation = .ask question := by simpa using asked
      simpa [answers, perform] using (question.answer_same onFile onFile').1
    | succ i => simpa [answers] using ih overNext (by simpa using asked)

theorem answersOf_cons (session : Session) (cursor : Nat) (operation : Operation) (rest : List Operation) :
    session.answersOf cursor (operation :: rest) =
      (if operation.moves cursor then [(session.perform operation).1] else []) ++
        (session.perform operation).2.answersOf cursor rest := by
  simp only [answersOf, answers, List.zip_cons_cons, List.filter_cons]
  split <;> rfl

/-- A cursor gives the answers that it gives to its own moves alone. -/
theorem answersOf_eq (onFile : session.pager.Over file pageSize) (onFile' : session'.pager.Over file pageSize)
    {cursor : Nat} (sameCursor : session.cursors cursor = session'.cursors cursor) (history : List Operation) :
    session.answersOf cursor history = session'.answers (history.filter (·.moves cursor)) := by
  induction history generalizing session session' with
  | nil => rfl
  | cons operation rest ih =>
    obtain ⟨-, overNext, -⟩ := perform_same onFile onFile rfl operation
    obtain ⟨-, overNext', -⟩ := perform_same onFile' onFile' rfl operation
    rw [answersOf_cons, List.filter_cons]
    cases operation with
    | ask question => exact ih overNext onFile' sameCursor
    | move number move =>
      by_cases own : number = cursor
      · subst own
        obtain ⟨same, sameNext, -⟩ := move.answer_same (session.cursors number) onFile onFile'
        rw [sameCursor] at same sameNext
        have later := ih overNext overNext' (by simpa [perform, sameCursor] using sameNext)
        have first : (session.perform (.move number move)).1 = (session'.perform (.move number move)).1 := by
          simpa [perform, sameCursor] using same
        simp [Operation.moves, answers, later, first]
      · have later := ih overNext onFile' (by simpa [perform, Ne.symm own] using sameCursor)
        simpa [Operation.moves, own] using later

end Session

/-- In a session on a database that is open, a question is answered as it is at the start of a session, a
cursor gives what it gives to its own moves alone, and it makes no difference whether pages are kept. -/
theorem answers_without_history [Sql.Dialect] {file : Bytes} {settings : Settings} {database : Database}
    (opened : Database.ofFile file settings = .ok database) (history : List Operation) :
    (∀ (i : Nat) (question : Question), history[i]? = some (.ask question) →
      (database.session.answers history)[i]? = (database.session.answers [.ask question])[0]?) ∧
      (∀ cursor : Nat, database.session.answersOf cursor history =
        database.session.answers (history.filter (·.moves cursor))) ∧
      ∀ keepPages : Bool, ∃ other, Database.ofFile file { settings with pageCache := keepPages } = .ok other ∧
        other.session.answers history = database.session.answers history := by
  have onFile : database.session.pager.Over file database.header.pageSize.toNat := Database.over_of_ofFile opened
  refine ⟨?_, ?_, ?_⟩
  · intro i question asked
    exact Session.answers_ask onFile onFile asked
  · intro cursor
    exact Session.answersOf_eq onFile onFile rfl history
  · intro keepPages
    obtain ⟨other, openedToo, sameHeader⟩ := Database.ofFile_pageCache opened keepPages
    have overToo : other.session.pager.Over file database.header.pageSize.toNat :=
      sameHeader ▸ Database.over_of_ofFile openedToo
    exact ⟨other, openedToo, Session.answers_same overToo onFile rfl history⟩

/-- The only page of a database without tables: a header and a leaf without cells. -/
def blankFile : Bytes :=
  smallHeader.toBytes ++ (#[13, 0, 0, 0, 0, 2, 0, 0] ++ Bytes.zeros 404)

/-- A failed question and a scan of the catalog between the steps of a cursor. -/
theorem answers_without_history_blank :
    ∃ database, Database.ofFile blankFile .default = .ok database ∧
      let history := [.ask (.page 9), .move 0 (.start 1), .ask .entries, .move 0 .next, .ask (.table "t")]
      (database.session.answers history)[4]? = (database.session.answers [.ask (.table "t")])[0]? ∧
        database.session.answersOf 0 history = database.session.answers [.move 0 (.start 1), .move 0 .next] ∧
        ∃ other, Database.ofFile blankFile { Settings.default with pageCache := false } = .ok other ∧
          other.session.answers history = database.session.answers history := by
  have opened : Database.ofFile blankFile .default =
      .ok ⟨smallHeader, .new blankFile 512 true⟩ :=
    Database.ofFile_append rfl valid_smallHeader rfl _ _
  obtain ⟨asked, moved, kept⟩ := answers_without_history opened
    [.ask (.page 9), .move 0 (.start 1), .ask .entries, .move 0 .next, .ask (.table "t")]
  exact ⟨_, opened, asked 4 (.table "t") rfl, moved 0, kept false⟩

end SqliteReader
