import SqliteReader.Proofs.Image
import SqliteReader.Proofs.LetterCase

/-!
# Listed tables and how they are found

A name is looked up among all tables of the catalog up to the case of its letters (`FirstTable`), but a name of the
catalog itself is not looked up. The list of tables leaves out the names that start as internal ones do, in just this
letter case. So a listed name leads to its table unless it is a name of the catalog with a capital at its start
(`listed_tables_found`), and such a name leads to the catalog (`listed_master_missed`).
-/
namespace SqliteReader
open Reading

/-- A name under which the catalog can be read. -/
def NamesCatalog (name : String) : Prop :=
  Text.SameLetters name "sqlite_schema" ∨ Text.SameLetters name "sqlite_master"

theorem isCatalogName_iff {name : String} : isCatalogName name = true ↔ NamesCatalog name := by
  simp [isCatalogName, catalogNames, Text.sameName_iff, NamesCatalog]

theorem isCatalogName_eq_false_iff {name : String} : isCatalogName name = false ↔ ¬ NamesCatalog name := by
  rw [← isCatalogName_iff, Bool.not_eq_true]

/-- The entry is the table of this name, in any letter case. -/
structure Entry.TableNamed (entry : Entry) (name : String) : Prop where
  kind : entry.kind = .table
  name : Text.SameLetters entry.name name

/-- Among the entries this is the first table of the name. -/
structure FirstTable (entries : List Entry) (name : String) (entry : Entry) : Prop where
  named : entry.TableNamed name
  first : ∃ before behind, entries = before ++ entry :: behind ∧ ∀ earlier ∈ before, ¬ earlier.TableNamed name

namespace Catalog

theorem isTable_iff {name : String} {entry : Entry} : isTable name entry = true ↔ entry.TableNamed name := by
  rw [isTable, Bool.and_eq_true, beq_iff_eq, Text.sameName_iff]
  constructor
  · rintro ⟨kind, same⟩
    exact ⟨kind, same⟩
  · rintro ⟨kind, same⟩
    exact ⟨kind, same⟩

theorem find?_isTable_eq_some_iff {entries : List Entry} {name : String} {entry : Entry} :
    entries.find? (isTable name) = some entry ↔ FirstTable entries name entry := by
  simp only [List.find?_eq_some_iff_append, isTable_iff, Bool.not_eq_true', Bool.eq_false_iff, ne_eq]
  constructor
  · rintro ⟨named, first⟩
    exact ⟨named, first⟩
  · rintro ⟨named, first⟩
    exact ⟨named, first⟩

/-- A name that some table has is that of a first table. -/
theorem exists_firstTable {entries : List Entry} {name : String} {entry : Entry} (inside : entry ∈ entries)
    (named : entry.TableNamed name) : ∃ first, FirstTable entries name first := by
  have found : (entries.find? (isTable name)).isSome = true :=
    List.find?_isSome.2 ⟨entry, inside, isTable_iff.2 named⟩
  obtain ⟨first, found⟩ := Option.isSome_iff_exists.1 found
  exact ⟨first, find?_isTable_eq_some_iff.1 found⟩

theorem answer_findTable_of_first {file : Bytes} {pageSize : Nat} {read : Partial Entry}
    (answered : entries.answer file pageSize = .ok read) {name : String} (other : ¬ NamesCatalog name) {entry : Entry}
    (first : FirstTable read.results name entry) :
    (findTable name).answer file pageSize = .ok (entry.rootPage, entry.sql.getD "") := by
  rw [answer_findTable, isCatalogName_eq_false_iff.2 other, if_neg Bool.false_ne_true, answered]
  simp only [Except.bind, find?_isTable_eq_some_iff.2 first]

theorem answer_findTable_of_catalog {file : Bytes} {pageSize : Nat} {name : String} (own : NamesCatalog name) :
    (findTable name).answer file pageSize = .ok (catalogRoot, "") := by
  rw [answer_findTable, isCatalogName_iff.2 own, if_pos rfl]

/-- A listed name is that of a table, and it does not start as internal names do. -/
theorem mem_userTables {entries : List Entry} {name : String}
    (listed : name ∈ (entries.filter Entry.isUserTable).map Entry.name) :
    ¬ Entry.internalStart.toList <+: name.toList ∧ ∃ entry ∈ entries, entry.TableNamed name := by
  obtain ⟨entry, inside, rfl⟩ := List.mem_map.1 listed
  obtain ⟨inside, user⟩ := List.mem_filter.1 inside
  rw [Entry.isUserTable, Bool.and_eq_true, beq_iff_eq, Bool.not_eq_true', ← Bool.not_eq_true,
    List.isPrefixOf_iff_prefix] at user
  exact ⟨user.2, entry, inside, user.1, .refl entry.name⟩

end Catalog

/-- When the entries of a catalog can be read, its tables can be listed. A listed name that is none of the catalog's own
names leads to the root page and the statement of the first table with this name, in any letter case. A listed name that
is one of them leads to the catalog; a capital at its start kept it from being left out. -/
theorem listed_tables_found {file : Bytes} {pageSize : Nat} {pager pager' : Pager} (onFile : pager.Over file pageSize)
    (onFile' : pager'.Over file pageSize) {read : Partial Entry} (answered : (Catalog.entries.on pager).1 = .ok read) :
    ∃ names, (Catalog.tableNames.on pager').1 = .ok names ∧ ∀ name ∈ names,
      (¬ NamesCatalog name → ∃ entry, FirstTable read.results name entry ∧
        ((Catalog.findTable name).on pager').1 = .ok (entry.rootPage, entry.sql.getD "")) ∧
      (NamesCatalog name → ((Catalog.findTable name).on pager').1 = .ok (catalogRoot, "") ∧
        ¬ "sqlite_".toList <+: name.toList) := by
  rw [Catalog.entries_byPages.answer_eq onFile] at answered
  refine ⟨(read.results.filter Entry.isUserTable).map Entry.name, ?_, fun name listed => ?_⟩
  · rw [Catalog.tableNames_byPages.answer_eq onFile', Catalog.answer_tableNames, answered, Except.map]
  · rw [(Catalog.findTable_byPages name).answer_eq onFile']
    obtain ⟨start, entry, inside, named⟩ := Catalog.mem_userTables listed
    refine ⟨fun other => ?_, fun own => ⟨Catalog.answer_findTable_of_catalog own, start⟩⟩
    obtain ⟨first, isFirst⟩ := Catalog.exists_firstTable inside named
    exact ⟨first, isFirst, Catalog.answer_findTable_of_first answered other isFirst⟩

/-- A table that has the name of the catalog, in capitals. -/
def masterTable : ImageTable := .ofRows "SQLITE_MASTER" "CREATE TABLE SQLITE_MASTER(a)" [[.int8 5]]

def plainTable : ImageTable := .ofRows "t" "CREATE TABLE t(a)" []

theorem catalogEntries_plain_master : (Image.ofTables [plainTable, masterTable]).catalogEntries =
    [⟨.table, "t", "t", 2, some "CREATE TABLE t(a)"⟩,
      ⟨.table, "SQLITE_MASTER", "SQLITE_MASTER", 3, some "CREATE TABLE SQLITE_MASTER(a)"⟩] := by decide +kernel

/-- The name of an ordinary table leads to it, and that of the table with the name of the catalog to the catalog. -/
theorem listed_tables_found_plain : ∃ file database, (Image.ofTables [plainTable, masterTable]).bytes = .ok file ∧
    Database.ofFile file .default = .ok database ∧
    (Catalog.tableNames.on database.pager).1 = .ok ["t", "SQLITE_MASTER"] ∧
    ((Catalog.findTable "t").on database.pager).1 = .ok (2, "CREATE TABLE t(a)") ∧
    ((Catalog.findTable "SQLITE_MASTER").on database.pager).1 = .ok (catalogRoot, "") := by
  obtain ⟨file, database, built, opened, onFile, entries, -⟩ :=
    @Image.opens_ofTables [plainTable, masterTable] (by decide +kernel) (by decide +kernel)
  rw [catalogEntries_plain_master] at entries
  obtain ⟨names, listed, each⟩ := listed_tables_found onFile onFile entries
  have two : names = ["t", "SQLITE_MASTER"] := by
    rw [Catalog.entries_byPages.answer_eq onFile] at entries
    rw [Catalog.tableNames_byPages.answer_eq onFile, Catalog.answer_tableNames, entries] at listed
    rw [← Except.ok.inj listed]
    decide +kernel
  rw [two] at listed each
  refine ⟨file, database, built, opened, listed, ?_, ?_⟩
  · have other : ¬ NamesCatalog "t" := isCatalogName_eq_false_iff.1 (by decide +kernel)
    obtain ⟨entry, first, found⟩ := (each "t" (by simp)).1 other
    rw [← Catalog.find?_isTable_eq_some_iff] at first
    have same : entry = ⟨.table, "t", "t", 2, some "CREATE TABLE t(a)"⟩ :=
      Option.some.inj (first.symm.trans (by decide +kernel))
    rw [found, same]
    rfl
  · exact ((each "SQLITE_MASTER" (by simp)).2 (isCatalogName_iff.1 (by decide +kernel))).1

def masterEntry : Entry :=
  ⟨.table, "SQLITE_MASTER", "SQLITE_MASTER", 2, some "CREATE TABLE SQLITE_MASTER(a)"⟩

/-- The only table of a file is listed under a name that leads to the catalog, and not to the only table with this
name. -/
theorem listed_master_missed : ∃ file database, (Image.ofTables [masterTable]).bytes = .ok file ∧
    Database.ofFile file .default = .ok database ∧
    (Catalog.entries.on database.pager).1 = .ok ⟨[masterEntry], []⟩ ∧
    (Catalog.tableNames.on database.pager).1 = .ok ["SQLITE_MASTER"] ∧
    ((Catalog.findTable "SQLITE_MASTER").on database.pager).1 = .ok (1, "") ∧
    ∀ entry, FirstTable [masterEntry] "SQLITE_MASTER" entry → entry.rootPage = 2 := by
  obtain ⟨file, database, built, opened, onFile, entries, -⟩ :=
    @Image.opens_ofTables [masterTable] (by decide +kernel) (by decide +kernel)
  have one : (Image.ofTables [masterTable]).catalogEntries = [masterEntry] := by decide +kernel
  rw [one] at entries
  refine ⟨file, database, built, opened, entries, ?_, ?_, fun entry first => ?_⟩
  · rw [Catalog.entries_byPages.answer_eq onFile] at entries
    rw [Catalog.tableNames_byPages.answer_eq onFile, Catalog.answer_tableNames, entries]
    exact Outcomes.ok_of_toOption (by decide +kernel)
  · rw [(Catalog.findTable_byPages _).answer_eq onFile]
    exact Catalog.answer_findTable_of_catalog (isCatalogName_iff.1 (by decide +kernel))
  · obtain ⟨before, behind, split, -⟩ := first.first
    have only : entry ∈ [masterEntry] := by rw [split]; simp
    rw [List.mem_singleton.1 only]
    rfl

end SqliteReader
