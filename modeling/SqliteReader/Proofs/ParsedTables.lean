import SqliteReader.Proofs.Partial
import SqliteReader.Sql.Parser.Statement

/-!
# Tables that are parsed

A dialect names the tables that its texts create (`NamesTables`) when no such statement comes without a name. Here the
dialect of SQLite is shown to do so (`sqlite_namesTables`). What a parser makes of tokens can have a property on all
tokens (`Parser.Gives`): a path has at least one name, and no statement that creates a table is read without a path.
-/
namespace SqliteReader.Sql

/-- A statement that creates a table gives it a name. -/
def Statement.Named (statement : Statement) : Prop := ∀ create, statement = .createTable create → create.name ≠ []

/-- No text creates a table without a name. -/
def NamesTables [Dialect] : Prop := ∀ text statement, Statement.ofText text = .ok statement → statement.Named

namespace Parser
variable {α β : Type} {P : α → Prop} {Q : β → Prop}

/-- Whatever the tokens are, what the parser makes of them has the property. -/
def Gives (P : α → Prop) (parser : Parser α) : Prop :=
  ∀ tokens result rest, parser tokens = .ok (result, rest) → P result

namespace Gives

theorem pure {a : α} (holds : P a) : Gives P (pure a) := by
  intro tokens result rest given
  cases given
  exact holds

theorem fail : Gives P fail := fun _ _ _ given => nomatch given

/-- A parser behind another one makes something only of what that one gives. -/
theorem bind {first : Parser β} {second : β → Parser α} (gives : Gives Q first)
    (next : ∀ b, Q b → Gives P (second b)) : Gives P (first >>= second) := by
  intro tokens result rest given
  have given : (first tokens).bind (fun (b, behind) => second b behind) = .ok (result, rest) := given
  obtain ⟨⟨b, behind⟩, found, made⟩ := Outcomes.ok_of_bind given
  exact next b (gives tokens b behind found) behind result rest made

/-- The same, when nothing has to be known of the first result. -/
theorem behind {first : Parser β} {second : β → Parser α} (next : ∀ b, Gives P (second b)) :
    Gives P (first >>= second) :=
  bind (Q := fun _ => True) (fun _ _ _ _ => trivial) fun b _ => next b

end Gives

theorem path_gives : Gives (· ≠ []) path := by
  unfold path
  exact .behind fun first => .behind fun rest => .pure (List.cons_ne_nil first rest)

end Parser

open SqliteReader.Sql.Parser

namespace Grammar
variable (grammar : Grammar)

theorem createTable_gives (modifiers : List String) :
    Gives (fun create => create.name ≠ []) (grammar.createTable modifiers) := by
  unfold createTable
  refine .behind fun _ => path_gives.bind fun name named => ?_
  iterate 15 refine .behind fun _ => ?_
  exact .pure named

theorem creation_gives : Gives Statement.Named grammar.creation := by
  unfold creation
  iterate 6 refine .behind fun _ => ?_
  split
  · refine (createTable_gives grammar _).bind fun create named => .pure ?_
    rintro _ ⟨⟩
    exact named
  · -- No other statement of this kind creates a table.
    repeat' first
      | exact .pure nofun
      | refine .behind fun _ => ?_
      | split

theorem explanation_gives (head : String) : Gives Statement.Named (grammar.explanation head) := by
  unfold explanation
  repeat' first
    | exact .pure nofun
    | exact .fail
    | refine .behind fun _ => ?_
    | split

theorem parseStatement_gives : Gives Statement.Named grammar.parseStatement := by
  unfold parseStatement
  -- Only what follows `CREATE` can create a table, and an explanation shows another statement as it is written out.
  repeat' first
    | exact .pure nofun
    | exact creation_gives grammar
    | exact explanation_gives grammar _
    | exact .fail
    | refine .behind fun _ => ?_
    | split

theorem atDepth_gives (depth : Nat) : Gives Statement.Named (atDepth depth).statement := by
  cases depth with
  | zero => exact fun _ _ _ given => nomatch given
  | succ depth => exact parseStatement_gives (atDepth depth)

variable {grammar}

theorem statementsTo_gives (named : Gives Statement.Named grammar.statement) (times : Nat) :
    Gives (∀ statement ∈ ·, statement.Named) (grammar.statementsTo times) := by
  induction times with
  | zero =>
    rw [statementsTo]
    exact .pure (List.forall_mem_nil _)
  | succ times ih =>
    rw [statementsTo]
    refine .behind fun _ => .behind fun tokens => ?_
    split
    · exact .pure (List.forall_mem_nil _)
    · refine named.bind fun statement first => .behind fun _ => .behind fun _ => ?_
      split
      · exact .pure (List.forall_mem_singleton.2 first)
      · refine .behind fun _ => ?_
        split
        · exact ih.bind fun statements others => .pure (List.forall_mem_cons.2 ⟨first, others⟩)
        · exact .behind fun _ => ih.bind fun statements others => .pure (List.forall_mem_cons.2 ⟨first, others⟩)

end Grammar

theorem sqlite_namesTables : NamesTables := by
  intro text statement read
  unfold Statement.ofText at read
  split at read
  · rename_i only listed
    cases read
    obtain ⟨tokens, -, listed⟩ := Outcomes.ok_of_bind listed
    obtain ⟨⟨statements, rest⟩, parsed, same⟩ := Outcomes.ok_of_bind listed
    cases same
    exact Grammar.statementsTo_gives (Grammar.atDepth_gives _) _ _ _ _ parsed statement (List.mem_singleton_self _)
  · cases read
  · cases read

end SqliteReader.Sql
