import SqliteReader.Text

/-!
# Requests

What a query asks for, apart from how it is written: the tables to read and what to keep of each row.
-/
namespace SqliteReader

/-- A table that a request names, with the alias it goes by there. -/
structure TableRef where
  name : String
  asName : Option String
  deriving Repr, DecidableEq

/-- Whether `qualifier` means this table: by its alias, or by its name when it has no alias. -/
def TableRef.isNamed (table : TableRef) (qualifier : String) : Bool :=
  Text.sameName (table.asName.getD table.name) qualifier

/-- A column that a request names, perhaps with the table it belongs to. -/
structure ColumnRef where
  table : Option String
  name : String
  deriving Repr, DecidableEq

/-- The column as a request writes it. -/
def ColumnRef.qualifiedName (column : ColumnRef) : String :=
  match column.table with
  | some table => table ++ "." ++ column.name
  | none => column.name

/-- A function of all rows. -/
inductive AggregateFunction
  | count
  | sum
  | avg
  | min
  | max
  deriving Repr, DecidableEq

namespace AggregateFunction

/-- The name that a function is shown by. -/
def name : AggregateFunction → String
  | count => "COUNT"
  | sum => "SUM"
  | avg => "AVG"
  | min => "MIN"
  | max => "MAX"

/-- The function that goes by a name, up to the case of ASCII letters. -/
def ofName? (name : String) : Option AggregateFunction :=
  match Text.upper name with
  | "COUNT" => some count
  | "SUM" | "TOTAL" => some sum
  | "AVG" => some avg
  | "MIN" => some min
  | "MAX" => some max
  | _ => none

end AggregateFunction

/-- A function of all rows, of one column or of the rows as such. -/
structure Aggregate where
  function : AggregateFunction
  /-- None when the function is applied to the star. -/
  column : Option ColumnRef
  deriving Repr, DecidableEq

namespace Aggregate

/-- The number of rows. -/
def countStar : Aggregate := ⟨.count, none⟩

/-- The name of the column that holds the result. -/
def label (aggregate : Aggregate) : String :=
  let argument := (aggregate.column.map ColumnRef.qualifiedName).getD "*"
  aggregate.function.name ++ "(" ++ argument ++ ")"

end Aggregate

/-- What a request keeps of each row. -/
inductive Projection
  | wildcard
  | columns (columns : List ColumnRef)
  | aggregate (aggregate : Aggregate)
  deriving Repr, DecidableEq

/-- The tables to read, one after the other, and what to keep of each row. -/
structure Request where
  tables : List TableRef
  projection : Projection
  deriving Repr, DecidableEq

end SqliteReader
