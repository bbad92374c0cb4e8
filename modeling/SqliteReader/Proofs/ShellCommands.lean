import SqliteReader.Invocation
import SqliteReader.Proofs.History
import SqliteReader.Proofs.ShellLines

/-!
# The shell and the program called with one command

The shell carries out the commands that its input makes one after the other. What a command prints is what the
program prints when it is called with this command alone, apart from `help` and `clear`, which only the shell knows,
and from the place and the first word of failures (`Responds`). A failure does not end the shell and leaves nothing
behind, so earlier commands do not matter (`responds_run`). `commands_run_one_by_one` says this of a whole run of
the program.
-/
namespace SqliteReader

theorem Command.run_byPages [Sql.Dialect] (input : String) : Reading.ByPages (Command.run input) := by
  unfold Command.run
  split
  · exact execute_byPages _
  · exact .throw _

namespace Shell

/-- The words that end the shell. -/
def leaveWords : List String := ["exit", "quit", ".exit", ".quit"]

/-- The spellings of the command for help, with and without a point. -/
def helpWords : List String := ["help", ".help"]

def clearWords : List String := ["clear"]

/-- Whether a command is one of these words, up to the case of ASCII letters. -/
def IsWord (words : List String) (command : String) : Prop := Text.lower command ∈ words

instance (words : List String) (command : String) : Decidable (IsWord words command) :=
  inferInstanceAs (Decidable (_ ∈ _))

/-- The commands that are carried out: those that are not empty, up to the first that ends the shell. -/
def handled (commands : List String) : List String :=
  (commands.filter (· ≠ "")).takeWhile fun command => ¬ IsWord leaveWords command

/-- What the shell prints for one command, where `alone` is what the program prints when it is called with this
command, and its status then. Only the shell knows `help` and `clear`. Of any other command an answer is the same; a
failure is told with the same words, among the errors. -/
inductive Responds (alone : List Printed × Nat) (command : String) : Printed → Prop
  | help (asked : IsWord helpWords command) : Responds alone command (.line help)
  | clear (asked : IsWord clearWords command) : Responds alone command (.output clearScreen)
  | answer {text : String} (other : ¬ IsWord (helpWords ++ clearWords) command)
      (succeeds : alone = ([.output text], 0)) : Responds alone command (.output text)
  | failure {message : String} (other : ¬ IsWord (helpWords ++ clearWords) command) (fails : alone.2 ≠ 0)
      (told : alone.1 = [.errorLine ("Error: " ++ message)] ∨ alone.1 = [.line message]) :
      Responds alone command (.errorLine ("Error: " ++ message))

/-! ## Requests -/

/-- What a command asks of the shell, by the word that it is. -/
inductive Asks (command : String) : Request → Prop
  | nothing (empty : command = "") : Asks command .nothing
  | leave (nonempty : command ≠ "") (word : IsWord leaveWords command) : Asks command .leave
  | help (nonempty : command ≠ "") (stays : ¬ IsWord leaveWords command) (word : IsWord helpWords command) :
      Asks command .help
  | clear (nonempty : command ≠ "") (stays : ¬ IsWord leaveWords command) (word : IsWord clearWords command) :
      Asks command .clear
  | command (nonempty : command ≠ "") (stays : ¬ IsWord leaveWords command)
      (other : ¬ IsWord (helpWords ++ clearWords) command) : Asks command (.command command)

theorem lower_eq_empty_iff {text : String} : Text.lower text = "" ↔ text = "" := by
  rw [← String.toList_eq_nil_iff, Text.lower, String.toList_ofList, Text.lowered, List.map_eq_nil_iff,
    String.toList_eq_nil_iff]

theorem asks_ofLine (command : String) : Asks command (Request.ofLine command) := by
  have nonempty {word : String} (same : Text.lower command = word) (some : word ≠ "") : command ≠ "" := by
    rintro rfl
    exact some (same.symm.trans (lower_eq_empty_iff.2 rfl))
  unfold Request.ofLine
  split
  case h_1 same => exact .nothing (lower_eq_empty_iff.1 same)
  case h_2 same | h_3 same | h_4 same | h_5 same =>
    exact .leave (nonempty same (by decide)) (by simp [IsWord, leaveWords, same])
  case h_6 same | h_7 same =>
    exact .help (nonempty same (by decide)) (by simp [IsWord, leaveWords, same]) (by simp [IsWord, helpWords, same])
  case h_8 same =>
    exact .clear (nonempty same (by decide)) (by simp [IsWord, leaveWords, same]) (by simp [IsWord, clearWords, same])
  case h_9 empty exit quit dotExit dotQuit help dotHelp clear =>
    refine .command (fun same => empty (lower_eq_empty_iff.2 same)) ?_ ?_
    · simpa [IsWord, leaveWords] using ⟨exit, quit, dotExit, dotQuit⟩
    · simpa [IsWord, helpWords, clearWords] using ⟨help, dotHelp, clear⟩

/-! ## One command -/

/-- A failure is told behind `Error: `, and an answer as it is, also by the program called with this command. -/
theorem responds_reply {command : String} (other : ¬ IsWord (helpWords ++ clearWords) command)
    (answer : Except Error String) :
    Responds ([(Invocation.conclude answer).1], (Invocation.conclude answer).2) command (reply answer) := by
  unfold Invocation.conclude
  split
  · exact .answer other rfl
  · exact .failure other Nat.one_ne_zero (.inr rfl)
  · exact .failure other Nat.one_ne_zero (.inl rfl)

/-- A command of the database is a reading on the pager of the shell. -/
theorem perform_of_command [Sql.Dialect] {shell : Shell} {line text : String} (request : Request.ofLine line = .command text) :
    shell.perform line = ([reply ((Command.run text).on shell.pager).1],
      { shell with pager := ((Command.run text).on shell.pager).2 }) := by
  rw [perform, request]
  dsimp only
  generalize Command.run text = reading
  rfl

/-- What the first command asks for says whether it is carried out, and whether any behind it is. -/
theorem handled_cons (command : String) (commands : List String) : handled (command :: commands) =
    match Request.ofLine command with
    | .nothing => handled commands
    | .leave => []
    | _ => command :: handled commands := by
  have asked := asks_ofLine command
  generalize Request.ofLine command = request at asked
  cases asked with
  | nothing empty => simp [handled, empty]
  | leave nonempty word => simp [handled, nonempty, word]
  | help nonempty stays _ => simp [handled, nonempty, stays]
  | clear nonempty stays _ => simp [handled, nonempty, stays]
  | command nonempty stays _ => simp [handled, nonempty, stays]

/-- A shell on a file prints for its commands what the program prints for each of them alone, where `alone` carries
out a command on any pager over the file. -/
theorem responds_run [Sql.Dialect] {file : Bytes} {pageSize : Nat} {pager : Pager} (onFile : pager.Over file pageSize)
    {alone : String → List Printed × Nat} (answers : ∀ command, Text.trim command ≠ "" → alone command =
      ([(Invocation.conclude ((Command.run command).on pager).1).1],
        (Invocation.conclude ((Command.run command).on pager).1).2))
    {lines commands : List String} (grouped : Grouped lines commands) {shell : Shell}
    (onFile' : shell.pager.Over file pageSize) (going : shell.ended = false) (fresh : shell.unfinished = "") :
    List.Forall₂ (fun command printed => Responds (alone command) command printed) (handled commands)
      (shell.run lines).1 := by
  induction grouped generalizing shell with
  | unfinished goOn =>
    rw [run_unfinished going goOn]
    exact .nil
  | @command lines rest commands text joined behind ih =>
    rw [run_joined going joined, fresh, String.empty_append, handled_cons]
    have asked := asks_ofLine (Text.trim text)
    generalize request : Request.ofLine (Text.trim text) = kind at asked
    cases asked with
    | nothing empty =>
      rw [perform, request]
      exact ih onFile' going rfl
    | leave nonempty word =>
      rw [perform, request, run_ended rfl]
      exact .nil
    | help nonempty stays word =>
      rw [perform, request]
      exact .cons (.help word) (ih onFile' going rfl)
    | clear nonempty stays word =>
      rw [perform, request]
      exact .cons (.clear word) (ih onFile' going rfl)
    | command nonempty stays other =>
      obtain ⟨same, onFileNext⟩ := (Command.run_byPages (Text.trim text)).same onFile' onFile
      rw [perform_of_command request]
      dsimp only
      generalize (Command.run (Text.trim text)).on shell.pager = read at same onFileNext ⊢
      refine .cons ?_ (ih onFileNext going rfl)
      rw [answers _ (Text.trim_trim_ne_empty nonempty), ← same]
      exact responds_reply other _

end Shell

namespace Invocation
variable {lookup : String → Option String} {settings : Settings} {path : String} {words : List String}
  {files : String → Except Error Bytes} {file : Bytes} {database : Database}

theorem ofArguments_cons (known : Settings.ofVariables lookup = .ok settings) (path : String) (words : List String) :
    ofArguments lookup (path :: words) = .ok ⟨settings, path, " ".intercalate words⟩ := by
  rw [ofArguments, known]
  rfl

section
variable [Sql.Dialect] (known : Settings.ofVariables lookup = .ok settings) (found : files path = .ok file)
  (opened : Database.ofFile file settings = .ok database)
include known found opened

theorem run_eq (words lines : List String) : run lookup (path :: words) files lines =
    if Text.trim (" ".intercalate words) = "" then (((Shell.new database.pager).run lines).1, 0)
    else
      ([(conclude ((Command.run (" ".intercalate words)).on database.pager).1).1],
        (conclude ((Command.run (" ".intercalate words)).on database.pager).1).2) := by
  rw [run, ofArguments_cons known]
  dsimp only
  rw [start, found, Except.bind, opened]
  dsimp only
  by_cases blank : Text.trim (" ".intercalate words) = ""
  · rw [if_pos blank, if_pos (String.isEmpty_iff.2 blank)]
    rfl
  · rw [if_neg blank, if_neg (mt String.isEmpty_iff.1 blank)]
    generalize Command.run (" ".intercalate words) = reading
    rfl

/-- Called with one command, the program carries it out on the database that it has just opened. -/
theorem run_command {command : String} (some : Text.trim command ≠ "") (lines : List String) :
    run lookup [path, command] files lines = ([(conclude ((Command.run command).on database.pager).1).1],
      (conclude ((Command.run command).on database.pager).1).2) := by
  have one : " ".intercalate [command] = command := by simp
  rw [run_eq known found opened, one, if_neg some]

/-- Called without a command, the program is a shell. -/
theorem run_shell (noCommand : ∀ c ∈ (" ".intercalate words).toList, Text.isBlank c) (lines : List String) :
    run lookup (path :: words) files lines = (((Shell.new database.pager).run lines).1, 0) := by
  rw [run_eq known found opened, if_pos (Text.trim_eq_empty_iff.2 noCommand)]

end
end Invocation

open Shell

/-- Called without a command on a file that opens, the program groups its input into commands and carries out those
that are not empty, up to the first that ends the shell. Each prints one text: what the program prints when it is
called with this command alone if that succeeds, and otherwise a failure. The status is that of success. -/
theorem commands_run_one_by_one [Sql.Dialect] {lookup : String → Option String} {settings : Settings} {path : String}
    {words : List String} {files : String → Except Error Bytes} {file : Bytes} {database : Database}
    (known : Settings.ofVariables lookup = .ok settings) (found : files path = .ok file)
    (opened : Database.ofFile file settings = .ok database)
    (noCommand : ∀ c ∈ (" ".intercalate words).toList, Text.isBlank c) (lines : List String) :
    (∃ commands, Grouped lines commands) ∧
      ∀ commands, Grouped lines commands → ∃ printed,
        Invocation.run lookup (path :: words) files lines = (printed, 0) ∧
          ∀ input, List.Forall₂
            (fun command text => Responds (Invocation.run lookup [path, command] files input) command text)
            (handled commands) printed := by
  have onFile : database.pager.Over file database.header.pageSize.toNat := Database.over_of_ofFile opened
  refine ⟨exists_grouped lines, ?_⟩
  intro commands grouped
  refine ⟨_, Invocation.run_shell known found opened noCommand lines, ?_⟩
  intro input
  refine responds_run onFile ?_ grouped onFile rfl rfl
  intro command some
  exact Invocation.run_command known found opened some input

/-- A command on two lines and an unknown one, a blank line, a word for the shell in capitals, the end, and behind it
a command and one that goes on to the end of the input. -/
def mixedInput : List String :=
  [".tables \\ ", "  now", ".nothing", " ", "Help", "QUIT", ".dbinfo", ".schema \\"]

theorem grouped_mixedInput :
    Grouped mixedInput [".tables    now", ".nothing", "", "Help", "QUIT", ".dbinfo"] := by
  have whole {line : String} (ends : continued? (Text.trimEnd line) = none) : Joined [line] line :=
    .whole (ends_iff.2 ends)
  have goesOn : GoesOn ".tables \\ " ".tables " := goesOn_iff.2 (by decide +kernel)
  have unfinished : Grouped [".schema \\"] [] := by
    refine .unfinished ?_
    simp only [List.forall_mem_singleton]
    exact ⟨".schema ", goesOn_iff.2 (by decide +kernel)⟩
  have trimmed : [".tables    now", ".nothing", "", "Help", "QUIT", ".dbinfo"] =
      [".tables " ++ " " ++ "  now", ".nothing", " ", "Help", "QUIT", ".dbinfo"].map Text.trim := by decide +kernel
  rw [trimmed]
  exact .command (.goesOn goesOn (whole (by decide +kernel))) <| .command (whole (by decide +kernel)) <|
    .command (whole (by decide +kernel)) <| .command (whole (by decide +kernel)) <|
    .command (whole (by decide +kernel)) <| .command (whole (by decide +kernel)) unfinished

/-- Of six commands three print something, the last before the end of the shell being its own. -/
theorem commands_run_one_by_one_mixed :
    Settings.ofVariables (fun _ => none) = .ok .default ∧
      (∃ database, Database.ofFile blankFile .default = .ok database) ∧
      ∃ printed,
        Invocation.run (fun _ => none) ["a.db"] (fun _ => .ok blankFile) mixedInput = (printed, 0) ∧
          ∀ input, List.Forall₂
            (fun command text =>
              Responds (Invocation.run (fun _ => none) ["a.db", command] (fun _ => .ok blankFile) input) command text)
            [".tables    now", ".nothing", "Help"] printed := by
  have opened : Database.ofFile blankFile .default =
      .ok ⟨smallHeader, .new blankFile 512 true⟩ :=
    Database.ofFile_append rfl valid_smallHeader rfl _ _
  have carriedOut : handled [".tables    now", ".nothing", "", "Help", "QUIT", ".dbinfo"] =
      [".tables    now", ".nothing", "Help"] := by decide +kernel
  obtain ⟨-, run⟩ := @commands_run_one_by_one Sql.sqlite (fun _ => none) .default "a.db" [] (fun _ => .ok blankFile) blankFile _
    rfl rfl opened (by simp) mixedInput
  rw [← carriedOut]
  exact ⟨rfl, ⟨_, opened⟩, run _ grouped_mixedInput⟩

end SqliteReader
