import SqliteReader.Invocation
import SqliteReader.Sql.Parser.Statement

/-!
# The program

Reads the surroundings, the file and the lines of the input, and prints what `Invocation` and `Shell`
say.
-/
namespace SqliteReader

/-- Prints each text where it belongs. -/
def printAll (printed : List Printed) : IO Unit := do
  let output ← IO.getStdout
  let errors ← IO.getStderr
  for item in printed do
    match item with
    | .output text => output.putStr text
    | .error text => errors.putStr text
  output.flush

/-- The content of a file. -/
def readFile (path : String) : IO (Except Error Bytes) := do
  try
    return .ok (← IO.FS.readBinFile path).data
  catch error => return .error (.io error.toString)

/-- Feeds the lines of the input to a shell until one of the two ends. -/
partial def serve (input : IO.FS.Stream) (shell : Shell) : IO Unit := do
  if shell.ended then return
  let line ← input.getLine
  if line.isEmpty then return
  let (printed, shell) := shell.feed line
  printAll printed
  serve input shell

/-- Carries out the program and gives its status. -/
def runProgram (arguments : List String) : IO UInt32 := do
  let pageCache ← IO.getEnv Settings.pageCacheVariable
  let historyFile ← IO.getEnv Settings.historyFileVariable
  let lookup (name : String) : Option String :=
    if name = Settings.pageCacheVariable then pageCache
    else if name = Settings.historyFileVariable then historyFile
    else none
  match Invocation.ofArguments lookup arguments with
  | .error text =>
    printAll [.errorLine text]
    return UInt32.ofNat Invocation.failure
  | .ok invocation =>
    let (printed, progress) := invocation.start (← readFile invocation.path)
    printAll printed
    match progress with
    | .finished status => return UInt32.ofNat status
    | .reading shell =>
      serve (← IO.getStdin) shell
      return 0

end SqliteReader

def main (arguments : List String) : IO UInt32 := SqliteReader.runProgram arguments
