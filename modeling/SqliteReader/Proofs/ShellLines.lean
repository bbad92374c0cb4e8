import Mathlib.Data.List.DropRight
import SqliteReader.Shell

/-!
# Lines and the commands they make

A line that ends in a backslash goes on with the next one (`GoesOn`), and lines up to the first that does not are
joined to one command (`Joined`). `Grouped` says which commands a whole input makes. A shell that takes the lines of
a command one by one carries out that command (`run_joined`), and lines behind the last command do nothing
(`run_unfinished`).
-/
namespace SqliteReader

namespace Text

/-! ## Trimming -/

/-- Blanks at the end of a run of characters do not count. -/
theorem rdropWhile_append_blanks {blanks : List Char} (blank : ∀ c ∈ blanks, isBlank c) (front : List Char) :
    (front ++ blanks).rdropWhile isBlank = front.rdropWhile isBlank := by
  rw [List.rdropWhile, List.reverse_append, List.dropWhile_append_of_pos, ← List.rdropWhile]
  intro c inside
  exact blank c (List.mem_reverse.1 inside)

theorem toList_trimEnd (text : String) : (trimEnd text).toList = text.toList.rdropWhile isBlank := by
  rw [trimEnd, String.toList_ofList, List.rdropWhile]

theorem toList_trim (text : String) : (trim text).toList = (text.toList.dropWhile isBlank).rdropWhile isBlank := by
  rw [trim, String.toList_ofList, List.rdropWhile]

theorem trim_append_blanks {text whole : String} {blanks : List Char} (blank : ∀ c ∈ blanks, isBlank c)
    (same : whole.toList = text.toList ++ blanks) : trim whole = trim text := by
  apply String.toList_injective
  rw [toList_trim, toList_trim, same, List.dropWhile_append]
  split
  · rename_i empty
    have allBlank := List.dropWhile_eq_nil_iff.2 blank
    rw [allBlank, List.isEmpty_iff.1 empty]
  · exact rdropWhile_append_blanks blank _

/-- What is trimmed in the end need not have its last part trimmed before. -/
theorem trim_append_trimEnd (front back : String) : trim (front ++ trimEnd back) = trim (front ++ back) := by
  have split : back.toList = (trimEnd back).toList ++ back.toList.rtakeWhile isBlank := by
    rw [toList_trimEnd, List.rdropWhile_append_rtakeWhile]
  have same : (front ++ back).toList = (front ++ trimEnd back).toList ++ back.toList.rtakeWhile isBlank := by
    rw [String.toList_append, String.toList_append, List.append_assoc, ← split]
  exact (trim_append_blanks (fun _ => List.mem_rtakeWhile_imp) same).symm

theorem trim_eq_empty_iff {text : String} : trim text = "" ↔ ∀ c ∈ text.toList, isBlank c := by
  rw [← String.toList_eq_nil_iff, toList_trim, List.rdropWhile_eq_nil_iff]
  constructor
  · intro blank
    rw [← List.dropWhile_eq_nil_iff]
    by_contra rest
    have first := List.head_dropWhile_not isBlank rest
    rw [blank _ (List.head_mem rest)] at first
    cases first
  · intro blank c inside
    exact blank c ((List.dropWhile_suffix isBlank).subset inside)

/-- A text that is trimmed is not blank, or it is empty. -/
theorem trim_trim_ne_empty {text : String} (some : trim text ≠ "") : trim (trim text) ≠ "" := by
  intro empty
  have blank := trim_eq_empty_iff.1 empty
  rw [ne_eq, ← String.toList_eq_nil_iff, toList_trim] at some
  rw [toList_trim] at blank
  exact List.rdropWhile_last_not _ _ some (blank _ (List.getLast_mem some))

end Text

namespace Shell

/-! ## Lines that go on -/

/-- The line goes on with the next one: `start` and a backslash, and perhaps blanks behind that. -/
def GoesOn (line start : String) : Prop :=
  ∃ blanks, (∀ c ∈ blanks, Text.isBlank c) ∧ line.toList = start.toList ++ '\\' :: blanks

/-- Lines that make one command, and the text they make: all but the last one go on, with a space in place of the
backslash. -/
inductive Joined : (lines : List String) → (text : String) → Prop
  | whole {line : String} (ends : ∀ start, ¬ GoesOn line start) : Joined [line] line
  | goesOn {line start text : String} {lines : List String} (goesOn : GoesOn line start) (rest : Joined lines text) :
      Joined (line :: lines) (start ++ " " ++ text)

/-- Which commands an input makes. Each is trimmed, and lines that go on to the end of the input make none. -/
inductive Grouped : (lines commands : List String) → Prop
  | unfinished {lines : List String} (goOn : ∀ line ∈ lines, ∃ start, GoesOn line start) : Grouped lines []
  | command {lines rest commands : List String} {text : String} (joined : Joined lines text)
      (behind : Grouped rest commands) : Grouped (lines ++ rest) (Text.trim text :: commands)

theorem continued?_eq_some_iff {line start : String} :
    continued? line = some start ↔ line.toList = start.toList ++ ['\\'] := by
  unfold continued?
  split
  · rename_i last
    rw [← List.dropLast_append_getLast? _ last]
    simp [← String.toList_inj]
  · rename_i other
    simp only [reduceCtorEq, false_iff]
    intro same
    exact other (by simp [same])

theorem goesOn_iff {line start : String} : GoesOn line start ↔ continued? (Text.trimEnd line) = some start := by
  rw [continued?_eq_some_iff, Text.toList_trimEnd]
  constructor
  · rintro ⟨blanks, blank, same⟩
    rw [same, List.append_cons, Text.rdropWhile_append_blanks blank]
    exact List.rdropWhile_concat_neg _ _ _ (by decide)
  · intro same
    refine ⟨line.toList.rtakeWhile Text.isBlank, fun _ => List.mem_rtakeWhile_imp, ?_⟩
    rw [List.append_cons, ← same, List.rdropWhile_append_rtakeWhile]

theorem ends_iff {line : String} : (∀ start, ¬ GoesOn line start) ↔ continued? (Text.trimEnd line) = none := by
  rw [Option.eq_none_iff_forall_ne_some]
  exact forall_congr' fun _ => goesOn_iff.not

/-- Every input falls into commands. -/
theorem exists_grouped (lines : List String) : ∃ commands, Grouped lines commands := by
  induction lines with
  | nil => exact ⟨[], .unfinished (by simp)⟩
  | cons line lines ih =>
    obtain ⟨commands, grouped⟩ := ih
    by_cases goesOn : ∃ start, GoesOn line start
    · obtain ⟨start, goesOn⟩ := goesOn
      cases grouped with
      | unfinished goOn => exact ⟨[], .unfinished (List.forall_mem_cons.2 ⟨⟨start, goesOn⟩, goOn⟩)⟩
      | command joined behind => exact ⟨_, .command (.goesOn goesOn joined) behind⟩
    · exact ⟨_, .command (.whole (not_exists.1 goesOn)) grouped⟩

/-! ## Taking lines -/

theorem run_cons [Sql.Dialect] (shell : Shell) (line : String) (lines : List String) :
    (shell.run (line :: lines)).1 = (shell.feed line).1 ++ ((shell.feed line).2.run lines).1 := rfl

theorem run_ended [Sql.Dialect] {shell : Shell} (ended : shell.ended = true) (lines : List String) : (shell.run lines).1 = [] := by
  induction lines with
  | nil => rfl
  | cons line lines ih =>
    have fed : shell.feed line = ([], shell) := if_pos ended
    rw [run_cons, fed]
    exact ih

section
variable [Sql.Dialect] {shell : Shell} (going : shell.ended = false)
include going

theorem feed_eq (line : String) : shell.feed line =
    match continued? (Text.trimEnd line) with
    | some start => ([], { shell with unfinished := shell.unfinished ++ start ++ " " })
    | none => perform { shell with unfinished := "" } (Text.trim (shell.unfinished ++ Text.trimEnd line)) :=
  if_neg (by simp [going])

theorem feed_goesOn {line start : String} (goesOn : GoesOn line start) :
    shell.feed line = ([], { shell with unfinished := shell.unfinished ++ start ++ " " }) := by
  rw [feed_eq going, goesOn_iff.1 goesOn]

theorem feed_whole {line : String} (ends : ∀ start, ¬ GoesOn line start) :
    shell.feed line = perform { shell with unfinished := "" } (Text.trim (shell.unfinished ++ line)) := by
  rw [← Text.trim_append_trimEnd, feed_eq going, ends_iff.1 ends]

/-- The lines of a command are taken one by one, and with the last one the command is carried out. -/
theorem run_joined {lines : List String} {text : String} (joined : Joined lines text) (rest : List String) :
    (shell.run (lines ++ rest)).1 =
      (perform { shell with unfinished := "" } (Text.trim (shell.unfinished ++ text))).1 ++
        ((perform { shell with unfinished := "" } (Text.trim (shell.unfinished ++ text))).2.run rest).1 := by
  induction joined generalizing shell with
  | whole ends => rw [List.singleton_append, run_cons, feed_whole going ends]
  | goesOn goesOn _ ih =>
    rw [List.cons_append, run_cons, feed_goesOn going goesOn, List.nil_append, ih (by exact going)]
    simp only [String.append_assoc]

theorem run_unfinished {lines : List String} (goOn : ∀ line ∈ lines, ∃ start, GoesOn line start) :
    (shell.run lines).1 = [] := by
  induction lines generalizing shell with
  | nil => rfl
  | cons line lines ih =>
    obtain ⟨⟨start, first⟩, goOn⟩ := List.forall_mem_cons.1 goOn
    rw [run_cons, feed_goesOn going first, List.nil_append, ih (by exact going) goOn]

end
end Shell
end SqliteReader
