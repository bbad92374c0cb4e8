import SqliteReader.Command

/-!
# The shell

The shell takes its input line by line. A line that ends in a backslash goes on with the next one; a
whole command is carried out at once, and a failure does not end the shell. `Shell.feed` takes one line
and gives what is printed, `Shell.run` takes all.
-/
namespace SqliteReader

/-- A text for one of the two outputs of a program. -/
inductive Printed
  | output (text : String)
  | error (text : String)
  deriving Repr, DecidableEq

namespace Printed

/-- A line for the output. -/
def line (text : String) : Printed := output (text ++ "\n")

/-- A line for the errors. -/
def errorLine (text : String) : Printed := error (text ++ "\n")

/-- What goes to the output. -/
def outputOf : List Printed → String
  | [] => ""
  | output text :: rest => text ++ outputOf rest
  | error _ :: rest => outputOf rest

/-- What goes to the errors. -/
def errorsOf : List Printed → String
  | [] => ""
  | output _ :: rest => errorsOf rest
  | error text :: rest => text ++ errorsOf rest

end Printed

/-- A shell at work. -/
structure Shell where
  /-- The lines of a command that still goes on. -/
  unfinished : String
  pager : Pager
  /-- Whether a command has ended the shell. -/
  ended : Bool

namespace Shell

/-- A shell that has read nothing yet. -/
def new (pager : Pager) : Shell := ⟨"", pager, false⟩

/-- What the shell tells about itself. -/
def help : String :=
  "\nAvailable commands:\n" ++
  "  .dbinfo          - Show page size and catalog size\n" ++
  "  .tables          - List user tables\n" ++
  "  .schema          - Print the CREATE statements of the catalog\n" ++
  "  SELECT ...       - Run a query\n" ++
  "  exit, quit       - Leave the shell\n" ++
  "\nUse '\\' at the end of a line for multiline input.\n"

/-- What makes a terminal blank. -/
def clearScreen : String := "\x1B[2J\x1B[1;1H"

/-- What a trimmed line asks of the shell. -/
inductive Request
  | nothing
  | leave
  | help
  | clear
  /-- Anything else, which is a command on the database. -/
  | command (text : String)
  deriving Repr, DecidableEq

/-- The request of a line, up to the case of ASCII letters. -/
def Request.ofLine (line : String) : Request :=
  match Text.lower line with
  | "" => nothing
  | "exit" | "quit" | ".exit" | ".quit" => leave
  | "help" | ".help" => help
  | "clear" => clear
  | _ => command line

/-- What a command prints: its answer, or why there is none. -/
def reply : Except Error String → Printed
  | .ok answer => .line answer
  | .error error => .errorLine ("Error: " ++ error.message)

/-- Carries out a whole command. -/
def perform [Sql.Dialect] (shell : Shell) (line : String) : List Printed × Shell :=
  match Request.ofLine line with
  | .nothing => ([], shell)
  | .leave => ([], { shell with ended := true })
  | .help => ([.line help], shell)
  | .clear => ([.output clearScreen], shell)
  | .command text =>
    let (answer, pager) := (Command.run text).run.run shell.pager
    ([reply answer], { shell with pager })

/-- The line before its last backslash, when it ends in one. -/
def continued? (line : String) : Option String :=
  match line.toList.getLast? with
  | some '\\' => some (String.ofList line.toList.dropLast)
  | _ => none

/-- Takes one line. Blanks at its end do not count, and a backslash there makes the command go on behind
a space. Once the shell has ended it takes nothing. -/
def feed [Sql.Dialect] (shell : Shell) (line : String) : List Printed × Shell :=
  if shell.ended then ([], shell)
  else
    let line := Text.trimEnd line
    match continued? line with
    | some start => ([], { shell with unfinished := shell.unfinished ++ start ++ " " })
    | none =>
      perform { shell with unfinished := "" } (Text.trim (shell.unfinished ++ line))

/-- Takes lines until the shell has ended or no line is left. A command that still goes on is dropped
then. -/
def run [Sql.Dialect] (shell : Shell) : List String → List Printed × Shell
  | [] => ([], shell)
  | line :: rest =>
    let (printed, shell) := shell.feed line
    let (others, shell) := shell.run rest
    (printed ++ others, shell)

end Shell
end SqliteReader
