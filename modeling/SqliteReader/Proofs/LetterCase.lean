import Mathlib.Data.List.Forall2
import SqliteReader.Proofs.TableRecords

/-!
# Names up to letter case

Two texts have the same letters (`Text.SameLetters`) when they differ in nothing but the case of ASCII letters, and
names are compared just so far (`Text.sameName_iff`). Hence a request that writes its names in other cases is carried
out alike, from the lookup of a table in the catalog to the columns of its rows: both ways of writing give the same
rows, or both fail with errors of one variant (`case_of_names_ignored`).
-/
namespace SqliteReader
open Reading

/-! ## Letters -/

namespace Text

/-- Two characters are the same, or the capital and the small form of one ASCII letter. -/
def SameLetter (c d : Char) : Prop :=
  c = d ∨ ('A' ≤ c ∧ c ≤ 'Z' ∧ d.toNat = c.toNat + 32) ∨ ('A' ≤ d ∧ d ≤ 'Z' ∧ c.toNat = d.toNat + 32)

/-- Two texts have the same letters, each in any case. -/
def SameLetters (a b : String) : Prop := List.Forall₂ SameLetter a.toList b.toList

theorem sameLetter_iff {c d : Char} : SameLetter c d ↔ c.toNat = d.toNat ∨
    (65 ≤ c.toNat ∧ c.toNat ≤ 90 ∧ d.toNat = c.toNat + 32) ∨ (65 ≤ d.toNat ∧ d.toNat ≤ 90 ∧ c.toNat = d.toNat + 32) := by
  rw [SameLetter, ← Char.toNat_inj]
  rfl

theorem toNat_toLower (c : Char) :
    c.toLower.toNat = if 65 ≤ c.toNat ∧ c.toNat ≤ 90 then c.toNat + 32 else c.toNat := by
  unfold Char.toLower
  split
  · rename_i capital
    have capital : 65 ≤ c.toNat ∧ c.toNat ≤ 90 := capital
    have small : (c.val + ('a'.val - 'A'.val)).toNat = c.val.toNat + 32 := by
      have step : ('a'.val - 'A'.val).toNat = 32 := by decide
      have number : c.val.toNat = c.toNat := rfl
      rw [UInt32.toNat_add]
      omega
    rw [if_pos capital]
    exact small
  · rename_i other
    have other : ¬ (65 ≤ c.toNat ∧ c.toNat ≤ 90) := other
    rw [if_neg other]

theorem toLower_eq_iff {c d : Char} : c.toLower = d.toLower ↔ SameLetter c d := by
  rw [← Char.toNat_inj, toNat_toLower, toNat_toLower, sameLetter_iff]
  split <;> split <;> omega

theorem toNat_toUpper (c : Char) :
    c.toUpper.toNat = if 97 ≤ c.toNat ∧ c.toNat ≤ 122 then c.toNat - 32 else c.toNat := by
  unfold Char.toUpper
  split
  · rename_i small
    have small : 97 ≤ c.toNat ∧ c.toNat ≤ 122 := small
    have capital : (c.val + ('A'.val - 'a'.val)).toNat = c.val.toNat - 32 := by
      have step : ('A'.val - 'a'.val).toNat = 2 ^ 32 - 32 := by decide
      have number : c.val.toNat = c.toNat := rfl
      rw [UInt32.toNat_add]
      omega
    rw [if_pos small]
    exact capital
  · rename_i other
    have other : ¬ (97 ≤ c.toNat ∧ c.toNat ≤ 122) := other
    rw [if_neg other]

theorem toUpper_eq_iff {c d : Char} : c.toUpper = d.toUpper ↔ SameLetter c d := by
  rw [← Char.toNat_inj, toNat_toUpper, toNat_toUpper, sameLetter_iff]
  split <;> split <;> omega

theorem sameLetters_iff {a b : String} : SameLetters a b ↔ lowered a = lowered b := by
  rw [lowered, lowered, ← List.forall₂_eq_eq_eq, List.forall₂_map_left_iff, List.forall₂_map_right_iff, SameLetters]
  simp only [toLower_eq_iff]

theorem upper_eq_iff {a b : String} : upper a = upper b ↔ SameLetters a b := by
  rw [upper, upper, String.ofList_inj, ← List.forall₂_eq_eq_eq, List.forall₂_map_left_iff, List.forall₂_map_right_iff,
    SameLetters]
  simp only [toUpper_eq_iff]

/-- Names are compared up to the case of ASCII letters, and no further. -/
theorem sameName_iff {a b : String} : sameName a b = true ↔ SameLetters a b := by
  rw [sameName, beq_iff_eq, sameLetters_iff]

theorem sameName_congr {a a' b b' : String} (first : SameLetters a a') (second : SameLetters b b') :
    sameName a b = sameName a' b' := by
  rw [sameName, sameName, sameLetters_iff.1 first, sameLetters_iff.1 second]

@[refl]
theorem SameLetters.refl (a : String) : SameLetters a a := sameLetters_iff.2 rfl

instance : Std.Refl SameLetters := ⟨SameLetters.refl⟩

theorem SameLetters.symm {a b : String} (same : SameLetters a b) : SameLetters b a :=
  sameLetters_iff.2 (sameLetters_iff.1 same).symm

theorem SameLetters.trans {a b c : String} (first : SameLetters a b) (second : SameLetters b c) : SameLetters a c :=
  sameLetters_iff.2 ((sameLetters_iff.1 first).trans (sameLetters_iff.1 second))

theorem SameLetters.append {a a' b b' : String} (first : SameLetters a a') (second : SameLetters b b') :
    SameLetters (a ++ b) (a' ++ b') := by
  have joined (a b : String) : lowered (a ++ b) = lowered a ++ lowered b := by simp [lowered]
  rw [sameLetters_iff] at *
  rw [joined, joined, first, second]

/-- What is no letter stands in both of two texts that have the same letters. -/
theorem SameLetters.mem {a b : String} (same : SameLetters a b) {mark : Char} (inside : mark ∈ a.toList)
    (noLetter : mark.isAlpha = false) : mark ∈ b.toList := by
  obtain ⟨noCapital, noSmall⟩ := Bool.or_eq_false_iff.1 noLetter
  have noCapital : ¬ (65 ≤ mark.toNat ∧ mark.toNat ≤ 90) := of_decide_eq_false noCapital
  have noSmall : (decide (97 ≤ mark.toNat) && decide (mark.toNat ≤ 122)) = false := noSmall
  rw [← Bool.decide_and, decide_eq_false_iff_not] at noSmall
  have lowered : mark.toLower ∈ lowered b := sameLetters_iff.1 same ▸ List.mem_map_of_mem inside
  obtain ⟨c, there, equal⟩ := List.mem_map.1 lowered
  have number := sameLetter_iff.1 (toLower_eq_iff.1 equal)
  obtain rfl : c = mark := Char.toNat_inj.1 (by omega)
  exact there

end Text

/-! ## Requests -/

/-- The same table, its names written in any case. -/
structure TableRef.SameNames (table table' : TableRef) : Prop where
  name : Text.SameLetters table.name table'.name
  asName : Option.Rel Text.SameLetters table.asName table'.asName

/-- The same column, its names written in any case. -/
structure ColumnRef.SameNames (column column' : ColumnRef) : Prop where
  table : Option.Rel Text.SameLetters column.table column'.table
  name : Text.SameLetters column.name column'.name

/-- The same is kept of each row, the columns written in any case. -/
inductive Projection.SameNames : Projection → Projection → Prop
  | wildcard : SameNames .wildcard .wildcard
  | columns {columns columns' : List ColumnRef} (each : List.Forall₂ ColumnRef.SameNames columns columns') :
      SameNames (.columns columns) (.columns columns')
  | aggregate {function : AggregateFunction} {column column' : Option ColumnRef}
      (same : Option.Rel ColumnRef.SameNames column column') :
      SameNames (.aggregate ⟨function, column⟩) (.aggregate ⟨function, column'⟩)

/-- The same request, its names written in any case. -/
structure Request.SameNames (request request' : Request) : Prop where
  tables : List.Forall₂ TableRef.SameNames request.tables request'.tables
  projection : Projection.SameNames request.projection request'.projection

/-- The same sources under names that have the same letters. -/
structure Selection.SameNames (selection selection' : Selection) : Prop where
  names : List.Forall₂ Text.SameLetters selection.names selection'.names
  sources : selection.sources = selection'.sources

/-- The same rows with the same errors passed over, under columns that have the same letters. -/
structure ResultSet.SameNames (result result' : ResultSet) : Prop where
  columns : List.Forall₂ Text.SameLetters result.columns result'.columns
  rows : result.rows = result'.rows
  skipped : result.skipped = result'.skipped

theorem Selection.SameNames.refl (selection : Selection) : selection.SameNames selection :=
  ⟨List.forall₂_refl _, rfl⟩

theorem ResultSet.SameNames.refl (result : ResultSet) : result.SameNames result :=
  ⟨List.forall₂_refl _, rfl, rfl⟩

/-- Results that are the same one by one are so when they are laid end to end. -/
theorem ResultSet.SameNames.concat {results results' : List ResultSet} (each : List.Forall₂ SameNames results results') :
    (concat results).SameNames (concat results') := by
  constructor
  · cases each with
    | nil => exact .nil
    | cons first _ => exact first.columns
  · induction each with
    | nil => rfl
    | cons first _ ih => exact congrArg₂ (· ++ ·) first.rows ih
  · induction each with
    | nil => rfl
    | cons first _ ih => exact congrArg₂ (· ++ ·) first.skipped ih

/-! ## Outcomes -/

/-- The variants of errors. -/
inductive Error.Variant
  | io
  | invalidHeader
  | invalidPageType
  | unsupportedSerialType
  | corruptedRecord
  | corruptedPage
  | outOfBounds
  | tableNotFound
  | columnNotFound
  | unsupportedQuery
  | sqlParse
  | unknownCommand
  deriving DecidableEq

/-- The variant of an error, whatever it was met with. -/
def Error.variant : Error → Variant
  | io _ => .io
  | invalidHeader _ => .invalidHeader
  | invalidPageType _ _ => .invalidPageType
  | unsupportedSerialType _ => .unsupportedSerialType
  | corruptedRecord _ => .corruptedRecord
  | corruptedPage _ _ => .corruptedPage
  | outOfBounds _ _ _ => .outOfBounds
  | tableNotFound _ => .tableNotFound
  | columnNotFound _ _ => .columnNotFound
  | unsupportedQuery _ => .unsupportedQuery
  | sqlParse _ | noTable => .sqlParse
  | unknownCommand _ => .unknownCommand

/-- Both succeed with results that are related, or both fail with errors of one variant. -/
inductive SameOutcome {α β : Type} (R : α → β → Prop) : Except Error α → Except Error β → Prop
  | ok {a : α} {b : β} (related : R a b) : SameOutcome R (.ok a) (.ok b)
  | error {error error' : Error} (same : error.variant = error'.variant) : SameOutcome R (.error error) (.error error')

namespace SameOutcome
variable {α β γ δ : Type} {R : α → β → Prop} {S : γ → δ → Prop}

theorem refl (outcome : Except Error α) : SameOutcome Eq outcome outcome := by
  cases outcome with
  | ok a => exact .ok rfl
  | error error => exact .error rfl

theorem imp {S : α → β → Prop} {first : Except Error α} {first' : Except Error β} (same : SameOutcome R first first')
    (weaker : ∀ a b, R a b → S a b) : SameOutcome S first first' := by
  cases same with
  | ok related => exact .ok (weaker _ _ related)
  | error same => exact .error same

theorem bind {first : Except Error α} {first' : Except Error β} (same : SameOutcome R first first')
    {next : α → Except Error γ} {next' : β → Except Error δ} (sameNext : ∀ a b, R a b → SameOutcome S (next a) (next' b)) :
    SameOutcome S (first.bind next) (first'.bind next') := by
  cases same with
  | ok related => exact sameNext _ _ related
  | error same => exact .error same

theorem map {first : Except Error α} {first' : Except Error β} (same : SameOutcome R first first') {f : α → γ} {g : β → δ}
    (sameNext : ∀ a b, R a b → S (f a) (g b)) : SameOutcome S (first.map f) (first'.map g) := by
  cases same with
  | ok related => exact .ok (sameNext _ _ related)
  | error same => exact .error same

/-- Outcomes that are the same one by one are so when they are collected. -/
theorem collect {outcomes : List (Except Error α)} {outcomes' : List (Except Error β)}
    (each : List.Forall₂ (SameOutcome R) outcomes outcomes') :
    SameOutcome (List.Forall₂ R) (Outcomes.collect outcomes) (Outcomes.collect outcomes') := by
  induction each with
  | nil => exact .ok .nil
  | cons first _ ih =>
    cases first with
    | ok related => exact ih.map fun _ _ rest => .cons related rest
    | error same => exact .error same

/-- The same is collected from items that are related, when each of two related items gives the same outcome. -/
theorem collect_map {items : List γ} {items' : List δ} (each : List.Forall₂ S items items') {f : γ → Except Error α}
    {g : δ → Except Error β} (same : ∀ item item', S item item' → SameOutcome R (f item) (g item')) :
    SameOutcome (List.Forall₂ R) (Outcomes.collect (items.map f)) (Outcomes.collect (items'.map g)) := by
  refine collect ?_
  rw [List.forall₂_map_left_iff, List.forall₂_map_right_iff]
  exact each.imp same

end SameOutcome

/-! ## Tables by name -/

section
variable {name name' : String} (same : Text.SameLetters name name')
include same

theorem Text.sameName_left : Text.sameName name = Text.sameName name' := by
  funext word
  exact Text.sameName_congr same (.refl word)

theorem isCatalogName_congr : isCatalogName name = isCatalogName name' :=
  congrArg catalogNames.any (Text.sameName_left same)

theorem Catalog.isTable_congr : Catalog.isTable name = Catalog.isTable name' := by
  funext entry
  rw [isTable, isTable, Text.sameName_congr (.refl entry.name) same]

variable {file : Bytes} {pageSize : Nat}

/-- Of two ways to write a name, both find the same table, or neither finds one. -/
theorem Catalog.findTable_same :
    SameOutcome Eq ((findTable name).answer file pageSize) ((findTable name').answer file pageSize) := by
  rw [answer_findTable, answer_findTable, isCatalogName_congr same, isTable_congr same]
  split
  · exact .refl _
  · refine (SameOutcome.refl _).bind ?_
    rintro read _ rfl
    split
    · exact .refl _
    · exact .error rfl

omit same in
theorem Catalog.schemaOf_same [Sql.Dialect] (root : PageNumber) (sql : String) :
    SameOutcome Eq (schemaOf name root sql) (schemaOf name' root sql) := by
  unfold schemaOf
  split
  · exact .refl _
  · exact .error rfl

theorem Catalog.findSchema_same [Sql.Dialect] :
    SameOutcome Eq ((findSchema name).answer file pageSize) ((findSchema name').answer file pageSize) := by
  rw [answer_findSchema, answer_findSchema, isCatalogName_congr same]
  split
  · exact .refl _
  · refine (findTable_same same).bind ?_
    rintro ⟨root, sql⟩ _ rfl
    exact schemaOf_same root sql

/-! ## Columns by name -/

theorem TableSchema.columnIndex?_congr (schema : TableSchema) : schema.columnIndex? name = schema.columnIndex? name' := by
  have each : (fun column : Column => Text.sameName column.name name) = fun column => Text.sameName column.name name' := by
    funext column
    exact Text.sameName_congr (.refl column.name) same
  rw [columnIndex?, columnIndex?, each]

theorem Source.ofName_same (schema : TableSchema) : SameOutcome Eq (ofName schema name) (ofName schema name') := by
  rw [ofName, ofName, schema.columnIndex?_congr same, Text.sameName_left same]
  split
  · exact .refl _
  · split
    · exact .refl _
    · exact .error rfl

theorem TableRef.isNamed_congr {table table' : TableRef} (tables : table.SameNames table') :
    table.isNamed name = table'.isNamed name' := by
  obtain ⟨name, asName⟩ := table
  obtain ⟨name', asName'⟩ := table'
  obtain ⟨names, asNames⟩ := tables
  rw [isNamed, isNamed]
  cases asNames with
  | some each => exact Text.sameName_congr each same
  | none => exact Text.sameName_congr names same

theorem any_isNamed_congr {tables tables' : List TableRef} (each : List.Forall₂ TableRef.SameNames tables tables') :
    tables.any (·.isNamed name) = tables'.any (·.isNamed name') := by
  induction each with
  | nil => rfl
  | cons first _ ih => rw [List.any_cons, List.any_cons, TableRef.isNamed_congr same first, ih]

end

section
variable {request request' : Request} (tables : List.Forall₂ TableRef.SameNames request.tables request'.tables)
  {table table' : TableRef} (sameTable : table.SameNames table') (schema : TableSchema)

theorem ColumnRef.SameNames.qualifiedName {column column' : ColumnRef} (same : column.SameNames column') :
    Text.SameLetters column.qualifiedName column'.qualifiedName := by
  obtain ⟨qualifier, name⟩ := column
  obtain ⟨qualifier', name'⟩ := column'
  obtain ⟨qualifiers, names⟩ := same
  cases qualifiers with
  | some each => exact (each.append (.refl ".")).append names
  | none => exact names

include tables sameTable

theorem Source.ofColumn_same {column column' : ColumnRef} (same : column.SameNames column') :
    SameOutcome Eq (ofColumn request table schema column) (ofColumn request' table' schema column') := by
  obtain ⟨qualifier, name⟩ := column
  obtain ⟨qualifier', name'⟩ := column'
  obtain ⟨qualifiers, names⟩ := same
  cases qualifiers with
  | none => exact ofName_same names schema
  | some each =>
    simp only [ofColumn, TableRef.isNamed_congr each sameTable, any_isNamed_congr each tables]
    split
    · exact ofName_same names schema
    · split
      · exact .error rfl
      · exact .error rfl

/-- The same columns are selected, under names that have the same letters. -/
theorem Selection.ofColumns_same {columns columns' : List ColumnRef}
    (same : List.Forall₂ ColumnRef.SameNames columns columns') :
    SameOutcome SameNames (ofColumns request table schema columns) (ofColumns request' table' schema columns') := by
  have names : List.Forall₂ Text.SameLetters (columns.map ColumnRef.qualifiedName)
      (columns'.map ColumnRef.qualifiedName) := by
    rw [List.forall₂_map_left_iff, List.forall₂_map_right_iff]
    exact same.imp fun _ _ each => each.qualifiedName
  unfold ofColumns
  rw [Outcomes.mapM_eq_collect, Outcomes.mapM_eq_collect]
  have sources := SameOutcome.collect_map same fun _ _ each => Source.ofColumn_same tables sameTable schema each
  refine sources.bind fun sources sources' equal => .ok ⟨names, ?_⟩
  rwa [List.forall₂_eq_eq_eq] at equal

end

/-! ## Tables of a request -/

namespace Request
variable [Sql.Dialect] {file : Bytes} {pageSize : Nat} {select select' : TableRef → TableSchema → Except Error Selection}

/-- Through selections of the same columns, the same rows are read of a table. -/
theorem readTable_same {table table' : TableRef} (sameTable : table.SameNames table')
    (same : ∀ schema, SameOutcome Selection.SameNames (select table schema) (select' table' schema)) :
    SameOutcome ResultSet.SameNames ((readTable select table).answer file pageSize)
      ((readTable select' table').answer file pageSize) := by
  rw [answer_readTable, answer_readTable]
  refine (Catalog.findSchema_same sameTable.name).bind ?_
  rintro schema _ rfl
  refine (same schema).bind ?_
  rintro ⟨names, sources⟩ ⟨names', sources'⟩ ⟨sameNames, sameSources⟩
  cases sameSources
  -- The rows are made of the sources alone.
  refine (SameOutcome.refl _).map ?_
  rintro rows _ rfl
  exact ⟨sameNames, rfl, rfl⟩

theorem countTable_same {table table' : TableRef} (sameTable : table.SameNames table') :
    SameOutcome Eq ((countTable table).answer file pageSize) ((countTable table').answer file pageSize) := by
  rw [answer_countTable, answer_countTable]
  refine (Catalog.findSchema_same sameTable.name).bind ?_
  rintro schema _ rfl
  exact .refl _

variable {tables tables' : List TableRef} (sameTables : List.Forall₂ TableRef.SameNames tables tables')
include sameTables

theorem read_same (same : ∀ table table', table.SameNames table' → ∀ schema,
      SameOutcome Selection.SameNames (select table schema) (select' table' schema)) :
    SameOutcome ResultSet.SameNames ((read select tables).answer file pageSize)
      ((read select' tables').answer file pageSize) := by
  rw [answer_read, answer_read]
  refine (SameOutcome.collect_map (R := ResultSet.SameNames) sameTables ?_).map fun _ _ => .concat
  intro table table' sameTable
  exact readTable_same sameTable (same table table' sameTable)

theorem count_same :
    SameOutcome Eq ((count tables).answer file pageSize) ((count tables').answer file pageSize) := by
  rw [answer_count, answer_count]
  refine (SameOutcome.collect_map (R := Eq) sameTables fun _ _ => countTable_same).map fun counts counts' equal => ?_
  rw [List.forall₂_eq_eq_eq] at equal
  rw [equal]

end Request

/-- The same aggregate is `COUNT(*)` both times or neither time. -/
theorem countStar_iff {function : AggregateFunction} {column column' : Option ColumnRef}
    (same : Option.Rel ColumnRef.SameNames column column') :
    (⟨function, column⟩ : Aggregate) = .countStar ↔ (⟨function, column'⟩ : Aggregate) = .countStar := by
  cases same with
  | none => rfl
  | some _ => simp [Aggregate.countStar]

theorem Request.execute_same [Sql.Dialect] {file : Bytes} {pageSize : Nat} {request request' : Request}
    (same : request.SameNames request') :
    SameOutcome ResultSet.SameNames (request.execute.answer file pageSize) (request'.execute.answer file pageSize) := by
  obtain ⟨tables, projection⟩ := request
  obtain ⟨tables', projection'⟩ := request'
  obtain ⟨sameTables, sameProjection⟩ := same
  have none : tables.isEmpty = tables'.isEmpty := by
    cases sameTables <;> rfl
  rw [execute_eq, execute_eq]
  simp only [none]
  split
  · exact .error rfl
  · cases sameProjection with
    | wildcard => exact read_same sameTables fun _ _ _ schema => .ok (.refl _)
    | columns each =>
      exact read_same sameTables fun _ _ sameTable schema => Selection.ofColumns_same sameTables sameTable schema each
    | aggregate sameColumn =>
      simp only [countStar_iff sameColumn]
      split
      · refine (count_same sameTables).imp ?_
        rintro result _ rfl
        exact .refl result
      · exact .error rfl

/-- However a request writes its names, it gives the same rows with the same errors passed over, under columns that
have the same letters, or else it fails with an error of the same variant. A table is found by its name, and so is its
schema, however the name is written. -/
theorem case_of_names_ignored [Sql.Dialect] {file : Bytes} {pageSize : Nat} {pager pager' : Pager}
    (onFile : pager.Over file pageSize) (onFile' : pager'.Over file pageSize) :
    (∀ request request' : Request, request.SameNames request' →
      SameOutcome ResultSet.SameNames (request.execute.on pager).1 (request'.execute.on pager').1) ∧
    ∀ name name', Text.SameLetters name name' →
      SameOutcome Eq ((Catalog.findTable name).on pager).1 ((Catalog.findTable name').on pager').1 ∧
      SameOutcome Eq ((Catalog.findSchema name).on pager).1 ((Catalog.findSchema name').on pager').1 := by
  constructor
  · intro request request' same
    rw [(Request.execute_byPages request).answer_eq onFile, (Request.execute_byPages request').answer_eq onFile']
    exact Request.execute_same same
  · intro name name' same
    rw [(Catalog.findTable_byPages name).answer_eq onFile, (Catalog.findTable_byPages name').answer_eq onFile',
      (Catalog.findSchema_byPages name).answer_eq onFile, (Catalog.findSchema_byPages name').answer_eq onFile']
    exact ⟨Catalog.findTable_same same, Catalog.findSchema_same same⟩

/-- The column `b` of the table, each name written once with a capital letter and once with a small one. -/
theorem case_of_names_ignored_key :
    let request : Request := ⟨[⟨"t", some "x"⟩], .columns [⟨some "X", "B"⟩]⟩
    let request' : Request := ⟨[⟨"T", some "X"⟩], .columns [⟨some "x", "b"⟩]⟩
    let rows : List Row := [⟨some 7, [.null]⟩, ⟨some (-1), [.text "x"]⟩]
    let skipped : List Error := [.outOfBounds (.cellPointer 2) 0 512]
    (request.execute.on (.new keyFile 512 true)).1 = .ok ⟨["X.B"], rows, skipped⟩ ∧
      (∃ columns, List.Forall₂ Text.SameLetters ["X.B"] columns ∧
        (request'.execute.on (.new keyFile 512 false)).1 = .ok ⟨columns, rows, skipped⟩) ∧
      SameOutcome Eq ((Catalog.findSchema "t").on (.new keyFile 512 true)).1
        ((Catalog.findSchema "T").on (.new keyFile 512 false)).1 := by
  intro request request' rows skipped
  have onFile := Pager.over_new keyFile 512
  have letters {a b : String} (same : Text.lowered a = Text.lowered b) : Text.SameLetters a b :=
    Text.sameLetters_iff.2 same
  have same : request.SameNames request' :=
    ⟨.cons ⟨letters (by decide +kernel), .some (letters (by decide +kernel))⟩ .nil,
      .columns (.cons ⟨.some (letters (by decide +kernel)), letters (by decide +kernel)⟩ .nil)⟩
  have short : Selection.row ⟨["X.B"], [.field 1]⟩ keySchema keyShort = .ok ⟨some 7, [.null]⟩ := rfl
  have long : Selection.row ⟨["X.B"], [.field 1]⟩ keySchema keyLong = .ok ⟨some (-1), [.text "x"]⟩ :=
    Outcomes.ok_of_toOption (by decide +kernel)
  have executed : (request.execute.on (.new keyFile 512 true)).1 = .ok ⟨["X.B"], rows, skipped⟩ := by
    rw [(Request.execute_byPages _).answer_eq (onFile true), Request.execute_eq]
    show (Request.read _ request.tables).answer keyFile 512 = _
    rw [Request.answer_read_one]
    exact readTable_keyFile (by decide +kernel) (by decide +kernel) (by decide +kernel) short long
  have ignored := case_of_names_ignored (onFile true) (onFile false)
  refine ⟨executed, ?_, (ignored.2 "t" "T" (letters (by decide +kernel))).2⟩
  -- The second request succeeds because the first one does.
  have outcome := ignored.1 request request' same
  rw [executed] at outcome
  revert outcome
  generalize (request'.execute.on (.new keyFile 512 false)).1 = second
  rintro (@⟨_, ⟨columns, rows', skipped'⟩, ⟨sameColumns, sameRows, sameSkipped⟩⟩)
  cases sameRows
  cases sameSkipped
  exact ⟨columns, sameColumns, rfl⟩

end SqliteReader
