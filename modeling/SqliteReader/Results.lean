import SqliteReader.Error

/-!
# Results

What is read of damaged pages is partial: what could be read and, apart from it, why the rest could not.
A request is answered by rows, each of which is one line, under the names of the columns.
-/
namespace SqliteReader

/-! ## Partial results -/

/-- What was read, and the errors of what was not. -/
structure Partial (α : Type) where
  results : List α
  errors : List Error
  deriving Repr, DecidableEq

namespace Partial

def empty {α : Type} : Partial α := ⟨[], []⟩

/-- The outcomes sorted into results and errors, each in the given order. -/
def ofOutcomes {α : Type} : List (Except Error α) → Partial α
  | [] => empty
  | .ok result :: rest => let read := ofOutcomes rest; ⟨result :: read.results, read.errors⟩
  | .error error :: rest => let read := ofOutcomes rest; ⟨read.results, error :: read.errors⟩

/-- Whether everything could be read. -/
def isComplete {α : Type} (read : Partial α) : Bool := read.errors.isEmpty

end Partial

/-! ## Rows -/

/-- One line of a result. -/
structure Row where
  rowId : Option RowId
  values : List Value
  deriving Repr, DecidableEq

namespace Row

/-- What stands between two fields of a line. -/
def separator : String := ", "

/-- The value in a column, counted from zero. -/
def value? (row : Row) (column : Nat) : Option Value := row.values[column]?

/-- The number of values. -/
def length (row : Row) : Nat := row.values.length

def isEmpty (row : Row) : Bool := row.values.isEmpty

def display (row : Row) : String := separator.intercalate (row.values.map Value.display)

end Row

/-! ## The answer to a request -/

/-- The names of the columns, the rows, and the errors of the rows that could not be read. -/
structure ResultSet where
  columns : List String
  rows : List Row
  skipped : List Error
  deriving Repr, DecidableEq

namespace ResultSet

def rowCount (result : ResultSet) : Nat := result.rows.length

/-- Whether no row was passed over. -/
def isComplete (result : ResultSet) : Bool := result.skipped.isEmpty

/-- The names of the columns on one line, and each row on a line of its own. -/
def display (result : ResultSet) : String :=
  "\n".intercalate (Row.separator.intercalate result.columns :: result.rows.map Row.display)

/-- Several results laid end to end, under the columns of the first. -/
def concat (results : List ResultSet) : ResultSet where
  columns := (results.head?.map columns).getD []
  rows := results.flatMap rows
  skipped := results.flatMap skipped

end ResultSet

end SqliteReader
