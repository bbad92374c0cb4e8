import SqliteReader.Shell

/-!
# Invocations

The program is called with the name of a file and, behind it, perhaps a command. With a command it
carries that out and ends; without one it starts a shell. `Invocation.ofArguments` reads how the program
was called, `Invocation.start` says what it does then.
-/
namespace SqliteReader

/-- How the program was called. -/
structure Invocation where
  settings : Settings
  /-- The file that holds the database. -/
  path : String
  /-- The command to carry out, blank when there is none. -/
  command : String
  deriving Repr, DecidableEq

/-- Where the program stands once the file has been opened. -/
inductive Progress
  /-- The program ends; zero is the status of success. -/
  | finished (status : Nat)
  | reading (shell : Shell)

namespace Invocation

def usage : String := "Usage: lembar <database file> [command]"

/-- The status of a failure. -/
def failure : Nat := 1

/-- The invocation that variables and arguments give, or what to tell when there is none. The words
behind the file name are one command. -/
def ofArguments (lookup : String → Option String) (arguments : List String) :
    Except String Invocation := do
  let settings ← (Settings.ofVariables lookup).mapError SettingError.message
  match arguments with
  | path :: words => return ⟨settings, path, " ".intercalate words⟩
  | [] => throw usage

/-- The end of the program after its only command. -/
def conclude : Except Error String → Printed × Nat
  | .ok answer => (.line answer, 0)
  | .error (.unknownCommand name) => (.line (Error.unknownCommand name).message, failure)
  | .error error => (Shell.reply (.error error), failure)

/-- What the program does first, where `file` is the content of the file or why it cannot be read. -/
def start [Sql.Dialect] (invocation : Invocation) (file : Except Error Bytes) : List Printed × Progress :=
  match file.bind fun content => Database.ofFile content invocation.settings with
  | .error error =>
    ([.errorLine ("Failed to open " ++ invocation.path ++ ": " ++ error.message)],
      .finished failure)
  | .ok database =>
    if (Text.trim invocation.command).isEmpty then ([], .reading (.new database.pager))
    else
      let (printed, status) := conclude (database.run (Command.run invocation.command)).1
      ([printed], .finished status)

/-- All that the program prints, and its status at the end, when its input has the given lines. -/
def run [Sql.Dialect] (lookup : String → Option String) (arguments : List String)
    (files : String → Except Error Bytes) (lines : List String) : List Printed × Nat :=
  match ofArguments lookup arguments with
  | .error text => ([.errorLine text], failure)
  | .ok invocation =>
    match invocation.start (files invocation.path) with
    | (printed, .finished status) => (printed, status)
    | (printed, .reading shell) => (printed ++ (shell.run lines).1, 0)

end Invocation
end SqliteReader
