import SqliteReader.Text

/-!
# Settings

What the surroundings of the program say about how it works, by named variables.
-/
namespace SqliteReader

structure Settings where
  /-- Whether pages that were read are kept. -/
  pageCache : Bool
  /-- The file in which the shell keeps the lines typed. -/
  historyFile : String
  deriving Repr, DecidableEq

/-- What is wrong with the value of a variable. -/
inductive SettingFault
  | notBoolean (found : String)
  | empty
  deriving Repr, DecidableEq

def SettingFault.message : SettingFault → String
  | notBoolean found => "expected a boolean, got '" ++ found ++ "'"
  | empty => "must not be empty"

/-- A variable with a value that means nothing. -/
structure SettingError where
  name : String
  fault : SettingFault
  deriving Repr, DecidableEq

def SettingError.message (error : SettingError) : String :=
  "invalid value for " ++ error.name ++ ": " ++ error.fault.message

namespace Settings

def pageCacheVariable : String := "LEMBAR_PAGE_CACHE"

def historyFileVariable : String := "LEMBAR_HISTORY_FILE"

/-- The settings where no variable says anything. -/
def default : Settings := ⟨true, ".lembar_history"⟩

/-- What a word says of a flag. Blanks around it and the case of its letters do not count. -/
def flag (name word : String) : Except SettingError Bool :=
  let found := Text.lower (Text.trim word)
  if ["true", "1", "yes", "on"].contains found then .ok true
  else if ["false", "0", "no", "off"].contains found then .ok false
  else .error ⟨name, .notBoolean found⟩

/-- A file name, which is not blank. -/
def fileName (name path : String) : Except SettingError String :=
  if (Text.trim path).isEmpty then .error ⟨name, .empty⟩ else .ok path

/-- The settings that variables give, where `lookup` knows their values. -/
def ofVariables (lookup : String → Option String) : Except SettingError Settings := do
  let pageCache ← (lookup pageCacheVariable).mapM (flag pageCacheVariable)
  let historyFile ← (lookup historyFileVariable).mapM (fileName historyFileVariable)
  return ⟨pageCache.getD default.pageCache, historyFile.getD default.historyFile⟩

/-- The parts of a path between its slashes. An empty part or a single point says nothing, unless it comes
first. -/
def pathParts (path : String) : List String :=
  match path.splitOn "/" with
  | [] => []
  | first :: rest => first :: rest.filter fun part => part ≠ "" && part ≠ "."

/-- Whether the settings are those where no variable says anything. Paths are compared by their parts. -/
def isDefault (settings : Settings) : Bool :=
  settings.pageCache == default.pageCache &&
    pathParts settings.historyFile == pathParts default.historyFile

end Settings
end SqliteReader
