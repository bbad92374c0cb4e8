/-!
# Names and quoted text

A name in SQL may stand in quotes of several styles, and keeps its style when it is written back.
-/
namespace SqliteReader.Sql

/-- `text` as it stands between two `quote` characters: a quote is written twice, unless it already is
or a backslash stands before it. `lone` says that the character before `text` is a quote that was
written once so far, and `previous` is that character. -/
def withQuotes (quote : Char) : (lone : Bool) → (previous : Char) → List Char → List Char
  | false, _, [] => []
  | true, _, [] => [quote]
  | lone, previous, c :: rest =>
    if c = quote then
      if lone then c :: withQuotes quote false c rest
      else if previous = '\\' then c :: withQuotes quote false previous rest
      else c :: withQuotes quote true c rest
    else if lone then quote :: c :: withQuotes quote false c rest
    else c :: withQuotes quote false c rest

/-- `text` between two `quote` characters. -/
def inQuotes (quote : Char) (text : String) : String :=
  String.ofList (quote :: withQuotes quote false '\x00' text.toList ++ [quote])

/-- The styles of quotes around a name. -/
inductive QuoteStyle
  | double
  | back
  | single
  /-- Square brackets. -/
  | bracket
  deriving Repr, DecidableEq

/-- A name with the quotes it is written in. -/
structure Ident where
  value : String
  quote : Option QuoteStyle
  deriving Repr, DecidableEq

namespace Ident

/-- The name as it is written. -/
def text (ident : Ident) : String :=
  match ident.quote with
  | none => ident.value
  | some .double => inQuotes '"' ident.value
  | some .back => inQuotes (Char.ofNat 0x60) ident.value
  | some .single => inQuotes '\'' ident.value
  | some .bracket => "[" ++ ident.value ++ "]"

end Ident

/-- Names joined by points, as in `schema.table.column`. -/
abbrev Path := List Ident

namespace Path

def text (path : Path) : String := ".".intercalate (path.map Ident.text)

end Path

/-- `items` with commas between them. -/
def listed (items : List String) : String := ", ".intercalate items

/-- `items` in brackets, with commas between them. -/
def bracketed (items : List String) : String := "(" ++ listed items ++ ")"

/-- The names in brackets, with commas between them. -/
def bracketedNames (names : List Ident) : String := bracketed (names.map Ident.text)

/-- `parts` with a space between every two. -/
def spaced (parts : List String) : String := " ".intercalate parts

/-- `head`, and behind a space `text` if there is one. -/
def followed (head : String) : Option String → String
  | some text => head ++ " " ++ text
  | none => head

end SqliteReader.Sql
