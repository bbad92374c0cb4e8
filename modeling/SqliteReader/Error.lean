import SqliteReader.Sql.Error
import SqliteReader.Text.Utf8
import SqliteReader.Value

/-!
# Errors

Every way in which reading a file or answering a request can fail, by cause. `Error.message` is the
one place that words them, `Error.kind` sorts them.
-/
namespace SqliteReader

/-- The number of a page, counted from one. -/
abbrev PageNumber := UInt32

/-- How a file stores its text. -/
inductive TextEncoding
  | utf8
  | utf16Little
  | utf16Big
  deriving Repr, DecidableEq

def TextEncoding.name : TextEncoding → String
  | utf8 => "Utf8"
  | utf16Little => "Utf16Le"
  | utf16Big => "Utf16Be"

/-- What is wrong with the first hundred bytes of a file. -/
inductive HeaderFault
  | tooShort (size : Nat)
  | wrongMagic
  | pageSize (stored : Nat)
  | unknownEncoding (stored : Nat)
  | foreignEncoding (encoding : TextEncoding)
  deriving Repr, DecidableEq

def HeaderFault.message : HeaderFault → String
  | tooShort size => s!"Header too short: {size} bytes"
  | wrongMagic => "Invalid SQLite magic string"
  | pageSize stored => s!"Unsupported page size: {stored}"
  | unknownEncoding stored => s!"Unknown text encoding: {stored}"
  | foreignEncoding encoding => "Unsupported text encoding: " ++ encoding.name

/-- What is wrong with the content of a record. -/
inductive RecordFault
  /-- The header claims to be shorter than the number that gives its length. -/
  | headerLength (length : Nat)
  | invalidText (field : Nat) (row : RowId) (fault : Utf8.Fault)
  | catalogFields (row : RowId) (count : Nat)
  /-- A field of the catalog holds a value of the wrong kind. -/
  | catalogValue (field : String) (value : Value)
  | tableText (table : String) (error : Sql.PlanError)
  deriving Repr, DecidableEq

def RecordFault.message : RecordFault → String
  | headerLength length => s!"header length {length} shorter than its own varint"
  | invalidText field row fault =>
    s!"field {field} of row {row.toInt} is not UTF-8: {fault.message}"
  | catalogFields row count => s!"catalog row {row.toInt} has {count} fields, expected 5"
  | catalogValue field value => "catalog " ++ field ++ " holds " ++ value.spelled
  | tableText table error => "schema of table '" ++ table ++ "' does not parse: " ++ error.message

/-- What is wrong with a page, or with a page about to be laid out. -/
inductive PageFault
  | tooManyPointers (count size : Nat)
  | noChild
  | reachedTwice (root : PageNumber)
  | noChildren
  deriving Repr, DecidableEq

def PageFault.message : PageFault → String
  | tooManyPointers count size => s!"{count} cell pointers do not fit in a {size} byte page"
  | noChild => "child page number 0"
  | reachedTwice root => s!"page reached twice from root {root.toNat}"
  | noChildren => "interior page without children"

/-- What was being read or written when its bytes ran out. -/
inductive Part
  | varint
  | pageHeader
  | cellPointer (page : PageNumber)
  | payload (row : RowId) (page : PageNumber)
  | childPointer
  | recordHeader
  | recordField
  | fieldIndex
  | lastField
  | field (index : Nat)
  | pageNumber
  | cell (index : Nat) (page : PageNumber)
  | patchPage
  | patch
  deriving Repr, DecidableEq

def Part.name : Part → String
  | varint => "varint"
  | pageHeader => "page header"
  | cellPointer page => s!"cell pointer on page {page.toNat}"
  | payload row page => s!"payload of row {row.toInt} on page {page.toNat}"
  | childPointer => "child pointer"
  | recordHeader => "record header"
  | recordField => "record field"
  | fieldIndex => "field index"
  | lastField => "last field"
  | field index => s!"field {index}"
  | pageNumber => "page number"
  | cell index page => s!"cell {index} on page {page.toNat}"
  | patchPage => "patch page number"
  | patch => "patch"

/-- A request that is understood and not carried out. -/
inductive Unsupported
  | plan (error : Sql.PlanError)
  /-- An aggregate other than `COUNT(*)`. -/
  | aggregate (label : String)
  /-- A column qualified by another table of the same request. -/
  | otherTable (column : String)
  deriving Repr, DecidableEq

def Unsupported.message : Unsupported → String
  | plan error => error.message
  | aggregate label => "aggregate " ++ label ++ " is not implemented"
  | otherTable column => "column " ++ column ++ " refers to another table of the join"

/-- Every way in which reading a file or answering a request fails. -/
inductive Error
  /-- The file could not be read, for the reason that the system gives. -/
  | io (reason : String)
  | invalidHeader (fault : HeaderFault)
  | invalidPageType (page : PageNumber) (tag : UInt8)
  | unsupportedSerialType (raw : UInt64)
  | corruptedRecord (fault : RecordFault)
  | corruptedPage (page : PageNumber) (fault : PageFault)
  | outOfBounds (part : Part) (offset length : Nat)
  | tableNotFound (name : String)
  | columnNotFound (name table : String)
  | unsupportedQuery (cause : Unsupported)
  /-- The text of a query is at fault. -/
  | sqlParse (error : Sql.PlanError)
  /-- A request lists no table. -/
  | noTable
  | unknownCommand (name : String)
  deriving Repr, DecidableEq

/-- The broad sort of an error. -/
inductive ErrorKind
  | format
  | bounds
  | io
  | notFound
  | unsupportedQuery
  | parse
  | command
  deriving Repr, DecidableEq

namespace Error

/-- The file ends inside the bytes asked for. -/
def endOfFile : Error := io "failed to fill whole buffer"

def ofPlan (error : Sql.PlanError) : Error :=
  if error.isParseError then sqlParse error else unsupportedQuery (.plan error)

def message : Error → String
  | io reason => "I/O error: " ++ reason
  | invalidHeader fault => "Invalid database header: " ++ fault.message
  | invalidPageType page tag => s!"Invalid page type {tag.toNat} on page {page.toNat}"
  | unsupportedSerialType raw => s!"Unsupported serial type: {raw.toNat}"
  | corruptedRecord fault => "Corrupted record: " ++ fault.message
  | corruptedPage page fault =>
    s!"Corrupted page: page_number={page.toNat}, reason={fault.message}"
  | outOfBounds part offset length =>
    s!"{part.name} out of bounds: offset {offset}, length {length}"
  | tableNotFound name => "Table '" ++ name ++ "' not found"
  | columnNotFound name table => "Column '" ++ name ++ "' not found in table '" ++ table ++ "'"
  | unsupportedQuery cause => "Unsupported query: " ++ cause.message
  | sqlParse error => "SQL parsing error: " ++ error.message
  | noTable => "SQL parsing error: query names no table"
  | unknownCommand name => "Unknown command " ++ name

def kind : Error → ErrorKind
  | io _ => .io
  | invalidHeader _ | invalidPageType _ _ | unsupportedSerialType _ | corruptedRecord _
  | corruptedPage _ _ => .format
  | outOfBounds _ _ _ => .bounds
  | tableNotFound _ | columnNotFound _ _ => .notFound
  | unsupportedQuery _ => .unsupportedQuery
  | sqlParse _ | noTable => .parse
  | unknownCommand _ => .command

end Error
end SqliteReader
