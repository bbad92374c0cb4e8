import Mathlib.Data.List.Forall2
import SqliteReader.Results

/-!
# Outcomes sorted into results and errors

A list of outcomes holds its results (`results`) and its errors (`failures`), each in order, and every
outcome is in exactly one of the two (`length_results_add_failures`).
-/
namespace SqliteReader.Outcomes
variable {α : Type}

/-- The error of an outcome that is one. -/
def failure? : Except Error α → Option Error
  | .ok _ => none
  | .error error => some error

/-- What succeeded, in order. -/
def results (outcomes : List (Except Error α)) : List α := outcomes.filterMap Except.toOption

/-- What failed, in order. -/
def failures (outcomes : List (Except Error α)) : List Error := outcomes.filterMap failure?

@[simp] theorem results_nil : results ([] : List (Except Error α)) = [] := rfl
@[simp] theorem failures_nil : failures ([] : List (Except Error α)) = [] := rfl
@[simp] theorem results_ok (a : α) (rest : List (Except Error α)) : results (.ok a :: rest) = a :: results rest := rfl
@[simp] theorem results_error (e : Error) (rest : List (Except Error α)) :
    results (.error e :: rest) = results rest := rfl
@[simp] theorem failures_ok (a : α) (rest : List (Except Error α)) : failures (.ok a :: rest) = failures rest := rfl
@[simp] theorem failures_error (e : Error) (rest : List (Except Error α)) :
    failures (.error e :: rest) = e :: failures rest := rfl

theorem results_append (first second : List (Except Error α)) :
    results (first ++ second) = results first ++ results second := List.filterMap_append

@[simp] theorem results_map_ok (all : List α) : results (all.map .ok) = all := by
  induction all with
  | nil => rfl
  | cons a rest ih => rw [List.map_cons, results_ok, ih]

@[simp] theorem failures_map_ok (all : List α) : failures (all.map .ok) = [] := by
  induction all with
  | nil => rfl
  | cons a rest ih => rw [List.map_cons, failures_ok, ih]

/-- An outcome that has a result is this result. -/
theorem ok_of_toOption {ε : Type} {outcome : Except ε α} {a : α} (given : outcome.toOption = some a) :
    outcome = .ok a := by
  cases outcome with
  | error error => cases given
  | ok result => exact congrArg Except.ok (Option.some.inj given)

theorem exists_ok_of_isSome {ε : Type} {outcome : Except ε α} (given : outcome.toOption.isSome = true) :
    ∃ a, outcome = .ok a := by
  obtain ⟨a, given⟩ := Option.isSome_iff_exists.1 given
  exact ⟨a, ok_of_toOption given⟩

/-- An outcome that is a failure is its error. -/
theorem error_of_failure? {outcome : Except Error α} {error : Error} (given : failure? outcome = some error) :
    outcome = .error error := by
  cases outcome with
  | error other => exact congrArg Except.error (Option.some.inj given)
  | ok result => cases given

/-- A step behind another one succeeds only on what that one gives. -/
theorem ok_of_bind {β ε : Type} {first : Except ε α} {second : α → Except ε β} {b : β}
    (done : first.bind second = .ok b) : ∃ a, first = .ok a ∧ second a = .ok b := by
  cases first with
  | error error => cases done
  | ok a => exact ⟨a, rfl, done⟩

/-- Two steps fail when the first one does, or when the second one does on what the first one gives. -/
theorem error_of_bind {β ε : Type} {first : Except ε α} {second : α → Except ε β} {error : ε}
    (failed : first.bind second = .error error) :
    first = .error error ∨ ∃ a, first = .ok a ∧ second a = .error error := by
  cases first with
  | error other => exact .inl (congrArg Except.error (Except.error.inj failed))
  | ok a => exact .inr ⟨a, rfl, failed⟩

/-- What is made of a result is there only when the result is. -/
theorem ok_of_map {β ε : Type} {first : Except ε α} {f : α → β} {b : β} (done : first.map f = .ok b) :
    ∃ a, first = .ok a ∧ f a = b := by
  cases first with
  | error error => cases done
  | ok a => exact ⟨a, rfl, Except.ok.inj done⟩

/-- Making something of a result does not change an error. -/
theorem map_eq_error_iff {β ε : Type} {first : Except ε α} {f : α → β} {error : ε} :
    first.map f = .error error ↔ first = .error error := by
  cases first <;> simp [Except.map]

theorem ofOutcomes_eq (outcomes : List (Except Error α)) :
    Partial.ofOutcomes outcomes = ⟨results outcomes, failures outcomes⟩ := by
  induction outcomes with
  | nil => rfl
  | cons outcome rest ih => cases outcome <;> simp [Partial.ofOutcomes, ih]

/-- Every outcome is a result or an error, and never both. -/
theorem length_results_add_failures (outcomes : List (Except Error α)) :
    (results outcomes).length + (failures outcomes).length = outcomes.length := by
  induction outcomes with
  | nil => rfl
  | cons outcome rest ih => cases outcome <;> simp <;> omega

/-- Outcomes without a failure are their results. -/
theorem eq_map_ok_of_failures_nil {outcomes : List (Except Error α)} (none : failures outcomes = []) :
    outcomes = (results outcomes).map .ok := by
  induction outcomes with
  | nil => rfl
  | cons outcome rest ih =>
    cases outcome with
    | error error => cases none
    | ok a =>
      rw [results_ok, List.map_cons, ← ih none]

/-- All results, or the first error. -/
def collect : List (Except Error α) → Except Error (List α)
  | [] => .ok []
  | .ok result :: rest => (collect rest).map (result :: ·)
  | .error error :: _ => .error error

theorem collect_eq_ok_iff (outcomes : List (Except Error α)) (all : List α) :
    collect outcomes = .ok all ↔ outcomes = all.map .ok := by
  induction outcomes generalizing all with
  | nil => cases all <;> simp [collect]
  | cons outcome rest ih =>
    cases outcome with
    | error error => cases all <;> simp [collect]
    | ok result =>
      cases all with
      | nil => cases collected : collect rest <;> simp [collect, collected, Except.map]
      | cons first more =>
        rw [List.map_cons, List.cons.injEq, Except.ok.injEq, ← ih more]
        cases collected : collect rest <;> simp [collect, collected, Except.map]

theorem mapM_eq_collect {β : Type} (f : β → Except Error α) (items : List β) :
    items.mapM f = collect (items.map f) := by
  induction items with
  | nil => rfl
  | cons item items ih =>
    rw [List.mapM_cons, ih, List.map_cons]
    cases first : f item with
    | error error => rfl
    | ok result => cases collected : collect (items.map f) <;> simp [collect, collected, Except.map] <;> rfl

/-- Mapping succeeds with exactly the results that it has one by one. -/
theorem mapM_eq_ok_iff {β : Type} (f : β → Except Error α) (items : List β) (all : List α) :
    items.mapM f = .ok all ↔ items.map f = all.map .ok := by
  rw [mapM_eq_collect, collect_eq_ok_iff]

/-- Mapping succeeds with a list whose items are what it gives one by one, whatever the errors are. -/
theorem mapM_eq_ok_iff_forall₂ {β ε : Type} {f : β → Except ε α} {items : List β} {all : List α} :
    items.mapM f = .ok all ↔ List.Forall₂ (fun item result => f item = .ok result) items all := by
  induction items generalizing all with
  | nil => cases all <;> simp [pure, Except.pure]
  | cons item items ih =>
    rw [List.mapM_cons, List.forall₂_cons_left_iff]
    simp only [← ih]
    constructor
    · intro made
      obtain ⟨result, first, made⟩ := ok_of_bind made
      obtain ⟨rest, others, same⟩ := ok_of_bind made
      exact ⟨result, rest, first, others, (Except.ok.inj same).symm⟩
    · rintro ⟨result, rest, first, others, rfl⟩
      rw [first, others]
      rfl

theorem collect_eq_error_iff (outcomes : List (Except Error α)) (error : Error) :
    collect outcomes = .error error ↔ ∃ (before : List α) (rest : _),
      outcomes = before.map .ok ++ .error error :: rest := by
  induction outcomes with
  | nil => simp [collect]
  | cons outcome rest ih =>
    cases outcome with
    | error first =>
      constructor
      · intro failed
        cases failed
        exact ⟨[], rest, rfl⟩
      · rintro ⟨before, more, same⟩
        cases before with
        | nil =>
          simp only [List.map_nil, List.nil_append, List.cons.injEq] at same
          rw [same.1]; rfl
        | cons _ _ => simp at same
    | ok result =>
      have step : collect (.ok result :: rest) = .error error ↔ collect rest = .error error := by
        cases collected : collect rest <;> simp [collect, collected, Except.map]
      rw [step, ih]
      constructor
      · rintro ⟨before, more, rfl⟩
        exact ⟨result :: before, more, rfl⟩
      · rintro ⟨before, more, same⟩
        cases before with
        | nil => simp at same
        | cons _ before =>
          simp only [List.map_cons, List.cons_append, List.cons.injEq] at same
          exact ⟨before, more, same.2⟩

/-- Outcomes have one first failure, and one list of results before it. -/
theorem first_failure_unique {before before' : List α} {error error' : Error} {rest rest' : List (Except Error α)}
    (same : before.map .ok ++ .error error :: rest = before'.map .ok ++ .error error' :: rest') :
    before = before' ∧ error = error' := by
  induction before generalizing before' with
  | nil =>
    cases before' with
    | nil =>
      cases same
      exact ⟨rfl, rfl⟩
    | cons _ _ => cases same
  | cons a before ih =>
    cases before' with
    | nil => cases same
    | cons a' before' =>
      simp only [List.map_cons, List.cons_append, List.cons.injEq, Except.ok.injEq] at same
      obtain ⟨rfl, rfl⟩ := ih same.2
      exact ⟨by rw [same.1], rfl⟩

/-- Putting results aside one by one, the last one first, collects them in reverse. -/
theorem foldlM_cons_eq (outcomes : List (Except Error α)) (before : List α) :
    outcomes.foldlM (fun found outcome => outcome.bind fun result => .ok (result :: found)) before =
      (collect outcomes).map fun all => all.reverse ++ before := by
  induction outcomes generalizing before with
  | nil => simp [collect, Except.map, pure, Except.pure]
  | cons outcome rest ih =>
    cases outcome with
    | error error => rfl
    | ok result =>
      rw [List.foldlM_cons]
      simp only [Except.bind, bind] at ih ⊢
      rw [ih]
      cases collected : collect rest <;> simp [collect, collected, Except.map]

/-- Counting the results one by one, all of them are counted. -/
theorem foldlM_count_eq (outcomes : List (Except Error α)) (before : Nat) :
    outcomes.foldlM (fun count outcome => outcome.bind fun _ => .ok (count + 1)) before =
      (collect outcomes).map fun all => before + all.length := by
  induction outcomes generalizing before with
  | nil => rfl
  | cons outcome rest ih =>
    cases outcome with
    | error error => rfl
    | ok result =>
      rw [List.foldlM_cons]
      show rest.foldlM _ (before + 1) = _
      rw [ih]
      cases collected : collect rest <;> simp [collect, collected, Except.map, Nat.add_assoc, Nat.add_comm 1]

/-- Something can be chosen for all items when it can be for each. -/
theorem exists_forall₂_iff {β : Type} {R : β → α → Prop} {items : List β} :
    (∃ all, List.Forall₂ R items all) ↔ ∀ item ∈ items, ∃ a, R item a := by
  constructor
  · rintro ⟨all, chosen⟩
    induction chosen with
    | nil => simp
    | @cons item a items all first _ ih => exact List.forall_mem_cons.2 ⟨⟨a, first⟩, ih⟩
  · intro each
    induction items with
    | nil => exact ⟨[], .nil⟩
    | cons item items ih =>
      obtain ⟨⟨a, first⟩, each⟩ := List.forall_mem_cons.1 each
      obtain ⟨all, chosen⟩ := ih each
      exact ⟨a :: all, .cons first chosen⟩

/-- Something can be chosen for all pairs of items when it can be for each. -/
theorem exists_forall₂_of_forall₂ {β γ : Type} {R : α → β → Prop} {S : α → γ → Prop} {T : β → γ → Prop} {items : List α}
    {others : List β} (pairs : List.Forall₂ R items others) (each : ∀ a b, R a b → ∃ c, S a c ∧ T b c) :
    ∃ all, List.Forall₂ S items all ∧ List.Forall₂ T others all := by
  induction pairs with
  | nil => exact ⟨[], .nil, .nil⟩
  | cons first _ ih =>
    obtain ⟨c, left, right⟩ := each _ _ first
    obtain ⟨all, lefts, rights⟩ := ih
    exact ⟨c :: all, .cons left lefts, .cons right rights⟩

/-- What belongs to the numbers below a bound is told by its places. -/
theorem forall₂_range_iff {R : Nat → α → Prop} {bound : Nat} {all : List α} : List.Forall₂ R (List.range bound) all ↔
    all.length = bound ∧ ∀ index a, all[index]? = some a → R index a := by
  rw [List.forall₂_iff_get]
  simp only [List.length_range, List.get_eq_getElem, List.getElem_range]
  constructor
  · rintro ⟨rfl, each⟩
    refine ⟨rfl, fun index a found => ?_⟩
    obtain ⟨within, rfl⟩ := List.getElem?_eq_some_iff.1 found
    exact each index within within
  · rintro ⟨rfl, each⟩
    exact ⟨rfl, fun index _ within => each index _ (List.getElem?_eq_getElem within)⟩

/-- What comes of choices for the items is told by all choices at once. -/
theorem forall₂_map_iff {β γ : Type} {R : β → γ → Prop} {f : γ → α} {items : List β} {all : List α} :
    List.Forall₂ (fun item a => ∃ choice, R item choice ∧ a = f choice) items all ↔
      ∃ choices, List.Forall₂ R items choices ∧ all = choices.map f := by
  constructor
  · intro each
    induction each with
    | nil => exact ⟨[], .nil, rfl⟩
    | cons first _ ih =>
      obtain ⟨choice, chosen, rfl⟩ := first
      obtain ⟨choices, each, rfl⟩ := ih
      exact ⟨choice :: choices, .cons chosen each, rfl⟩
  · rintro ⟨choices, each, rfl⟩
    rw [List.forall₂_map_right_iff]
    exact each.imp fun _ choice chosen => ⟨choice, chosen, rfl⟩

/-- Of what is made of the items one by one, all can be collected when each of them is a result. -/
theorem collect_map_eq_ok_iff {β : Type} (f : β → Except Error α) (items : List β) (all : List α) :
    collect (items.map f) = .ok all ↔ List.Forall₂ (fun item a => f item = .ok a) items all := by
  rw [collect_eq_ok_iff, ← List.forall₂_eq_eq_eq, List.forall₂_map_left_iff, List.forall₂_map_right_iff]

/-- What a step behind each outcome makes can all be collected when the outcomes are results of which it makes
something. -/
theorem collect_map_bind_eq_ok_iff {β : Type} (f : β → Except Error α) (outcomes : List (Except Error β))
    (all : List α) : collect (outcomes.map (·.bind f)) = .ok all ↔
      ∃ results, outcomes = results.map .ok ∧ List.Forall₂ (fun b a => f b = .ok a) results all := by
  rw [collect_map_eq_ok_iff]
  constructor
  · intro made
    induction made with
    | nil => exact ⟨[], rfl, .nil⟩
    | cons first _ ih =>
      obtain ⟨b, rfl, done⟩ := ok_of_bind first
      obtain ⟨results, rfl, behind⟩ := ih
      exact ⟨b :: results, rfl, .cons done behind⟩
  · rintro ⟨results, rfl, made⟩
    exact List.forall₂_map_left_iff.2 made

/-- What is made of the items one by one cannot be collected when something fails; the first error counts. -/
theorem collect_map_eq_error_iff {β : Type} (f : β → Except Error α) (items : List β) (error : Error) :
    collect (items.map f) = .error error ↔ ∃ (before : List β) (item : β) (behind : List β) (all : List α),
      items = before ++ item :: behind ∧ List.Forall₂ (fun item a => f item = .ok a) before all ∧
        f item = .error error := by
  rw [collect_eq_error_iff]
  constructor
  · rintro ⟨all, rest, same⟩
    obtain ⟨before, later, rfl, good, split⟩ := List.map_eq_append_iff.1 same
    obtain ⟨item, behind, rfl, failed, -⟩ := List.map_eq_cons_iff.1 split
    have good := (collect_map_eq_ok_iff f before all).1 ((collect_eq_ok_iff _ _).2 good)
    exact ⟨before, item, behind, all, rfl, good, failed⟩
  · rintro ⟨before, item, behind, all, rfl, good, failed⟩
    have good := (collect_eq_ok_iff _ _).1 ((collect_map_eq_ok_iff f before all).2 good)
    exact ⟨all, behind.map f, by rw [List.map_append, List.map_cons, good, failed]⟩

/-- Of what is made of the numbers below a bound, the first that fails counts. -/
theorem collect_range_eq_error_iff (f : Nat → Except Error α) (bound : Nat) (error : Error) :
    collect ((List.range bound).map f) = .error error ↔
      ∃ index < bound, (∀ earlier < index, ∃ a, f earlier = .ok a) ∧ f index = .error error := by
  rw [collect_map_eq_error_iff]
  constructor
  · rintro ⟨before, index, behind, all, split, good, failed⟩
    obtain ⟨place, within, rfl, rest⟩ := List.range'_eq_append_iff.1 (List.range_eq_range' ▸ split)
    obtain ⟨rfl, here, -⟩ := List.range'_eq_cons_iff.1 rest.symm
    rw [Nat.zero_add, Nat.mul_one] at failed
    refine ⟨place, by omega, ?_, failed⟩
    rw [← List.range_eq_range'] at good
    exact fun earlier before => exists_forall₂_iff.1 ⟨all, good⟩ earlier (List.mem_range.2 before)
  · rintro ⟨index, within, good, failed⟩
    obtain ⟨all, good⟩ := exists_forall₂_iff.2 fun earlier before => good earlier (List.mem_range.1 before)
    refine ⟨List.range index, index, List.range' (index + 1) (bound - index - 1), all, ?_, good, failed⟩
    rw [List.range_eq_range', List.range_eq_range', List.range'_eq_append_iff]
    refine ⟨index, Nat.le_of_lt within, rfl, ?_⟩
    rw [eq_comm, List.range'_eq_cons_iff]
    exact ⟨by omega, by omega, rfl⟩

end SqliteReader.Outcomes
