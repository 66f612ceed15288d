import Mathlib.Data.Set.Insert
import SchemaDelta.Proofs.Convergence

/-!
# Names during a migration

What a script does can be followed by the names of tables and columns alone. A statement needs some
names to be there and others to be free; it takes some away and adds others. The statements of a
migration find the names as they need them, one after the other, and those that they leave are the
names of the new snapshot, without the temporary ones.
-/

namespace SchemaDelta

/-- The names of the columns of every table. -/
abbrev Names := String → Option (Set String)

namespace Statement

/-- Of the columns of the table that the statement alters, those that it needs are there, and the
one that it makes is not. -/
def AppliesTo (columns : Set String) : Statement → Prop
  | addColumn _ column => column.name ∉ columns
  | dropColumn _ column => column ∈ columns
  | renameColumn _ column newName => column ∈ columns ∧ newName ∉ columns
  | copyCast _ source target _ => source ∈ columns ∧ target ∈ columns
  | enableRowSecurity _ | dropPolicy _ _ | createPolicy _ _ _ => True
  | s => ∃ column, s.alteredColumn? = some column ∧ column ∈ columns

/-- A table that is created is not there, and its columns differ in their names. Any other table
that the statement is about is there, with columns as the statement needs them. -/
def Applicable (names : Names) : Statement → Prop
  | createTable table columns => names table = none ∧ (columns.map Column.name).Nodup
  | dropTable table _ => (names table).isSome
  | s => ∃ table columns, s.alteredTable? = some table ∧ names table = some columns ∧
      s.AppliesTo columns

/-- What the statement makes of the columns of the table that it alters. -/
def alterNames (columns : Set String) : Statement → Set String
  | addColumn _ column => insert column.name columns
  | dropColumn _ column => columns \ {column}
  | renameColumn _ column newName => insert newName (columns \ {column})
  | _ => columns

end Statement

namespace Names

/-- The names of a snapshot. -/
def ofSnapshot (snapshot : Snapshot) : Names := fun name =>
  (snapshot.table? name).map fun table => {column | column ∈ table.fields.map Field.name}

/-- What a statement makes of the names, whether it is applicable or not. -/
def execute (names : Names) : Statement → Names
  | .createTable table columns =>
    Function.update names table (some {column | column ∈ columns.map Column.name})
  | .dropTable table _ => Function.update names table none
  | s => fun table =>
    if s.alteredTable? = some table then (names table).map (Statement.alterNames · s)
    else names table

/-- What a script makes of the names. -/
def run (names : Names) (script : List Statement) : Names := script.foldl execute names

end Names

/-! ## Names of a database -/

namespace Columns

variable {columns next : Columns} {s : Statement}

/-- The names of the columns. -/
def names (columns : Columns) : Set String := {name | (columns name).isSome}

theorem names_update_some (columns : Columns) (name : String) (state : ColumnState) :
    names (Function.update columns name (some state)) = insert name columns.names := by
  ext other
  by_cases same : other = name
  · simp [names, same]
  · simp [names, same]

theorem names_update_none (columns : Columns) (name : String) :
    names (Function.update columns name none) = columns.names \ {name} := by
  ext other
  by_cases same : other = name
  · simp [names, same]
  · simp [names, same]

theorem names_release (columns : Columns) (lost : List String) :
    (columns.release lost).names = columns.names := by
  ext name
  simp [names, release]

theorem names_ofList (columns : List Column) :
    (ofList columns).names = {name | name ∈ columns.map Column.name} := by
  ext name
  simp [names, ofList]

/-- Columns for the fields of a table have the names of the fields. -/
theorem names_of_fields {table : Table}
    (each : ∀ name, (columns name).isSome = (table.field? name).isSome) :
    columns.names = {name | name ∈ table.fields.map Field.name} := by
  ext name
  change (columns name).isSome ↔ _
  rw [each name, Table.field?_isSome_iff]
  rfl

theorem mem_names {name : String} {state : ColumnState} (found : columns name = some state) :
    name ∈ columns.names := by
  simp [names, found]

theorem not_mem_names {name : String} (free : columns name = none) : name ∉ columns.names := by
  simp [names, free]

/-- A statement that the columns allow is applicable to their names. -/
theorem appliesTo_of_alter (altered : columns.alter s = some next) :
    s.AppliesTo columns.names := by
  cases alters_of_alter altered with
  | added table column free => exact not_mem_names free
  | dropped table column state found => exact mem_names found
  | renamed table column newName state found free => exact ⟨mem_names found, not_mem_names free⟩
  | copied table source target type state state' found found' =>
    exact ⟨mem_names found, mem_names found'⟩
  | rowsSecured | policyDropped | policyCreated => trivial
  | redeclared column state final on found made =>
    have present := mem_names found
    cases s <;> first | exact ⟨column, on, present⟩ | cases on

theorem names_alter (altered : columns.alter s = some next) :
    next.names = s.alterNames columns.names := by
  cases alters_of_alter altered with
  | added table column free => exact names_update_some ..
  | dropped table column state found => exact names_update_none ..
  | renamed table column newName state found free =>
    rw [names_update_some, names_update_none]
    rfl
  | copied | rowsSecured | policyDropped | policyCreated => rfl
  | redeclared column state final on found made =>
    rw [names_update_some, Set.insert_eq_of_mem (mem_names found)]
    cases s <;> first | rfl | cases on

end Columns

namespace Database

variable {database next final : Database} {s : Statement} {script : List Statement}

/-- The names of the tables and their columns. -/
def names (database : Database) : Names := fun table => (database table).map Columns.names

theorem names_update (database : Database) (table : String) (columns : Option Columns) :
    names (Function.update database table columns) =
      Function.update database.names table (columns.map Columns.names) := by
  funext other
  by_cases same : other = table
  · subst same
    simp [names]
  · simp [names, same]

theorem names_ofSnapshot (dialect : Dialect) (snapshot : Snapshot) :
    (ofSnapshot dialect snapshot).names = .ofSnapshot snapshot := by
  funext name
  have declared : ∀ table : Table, (Columns.ofTable dialect table).names =
      {column | column ∈ table.fields.map Field.name} := fun _ =>
    Columns.names_of_fields fun _ => Option.isSome_map
  simp [names, ofSnapshot, Names.ofSnapshot, Function.comp_def, declared]

/-- A statement that the database allows is applicable to the names, and it changes them as it
says. -/
theorem names_execute (executed : database.execute s = some next) :
    s.Applicable database.names ∧ next.names = database.names.execute s := by
  cases executes_of_execute executed with
  | created table columns free distinct =>
    refine ⟨⟨by simp [names, free], distinct⟩, ?_⟩
    rw [names_update, Option.map_some, Columns.names_ofList]
    rfl
  | dropped table cascade columns found =>
    refine ⟨by simp [Statement.Applicable, names, found], ?_⟩
    funext other
    by_cases same : other = table
    · simp [names, without, Names.execute, same]
    · simp [names, without, Names.execute, same, Function.comp_def, Columns.names_release]
  | altered table columns altered on found made =>
    have held : database.names table = some columns.names := by simp [names, found]
    have applicable : ∃ table columns, s.alteredTable? = some table ∧
        database.names table = some columns ∧ s.AppliesTo columns :=
      ⟨table, columns.names, on, held, Columns.appliesTo_of_alter made⟩
    have changed : names (Function.update database table (some altered)) =
        fun other => if s.alteredTable? = some other then
          (database.names other).map (Statement.alterNames · s) else database.names other := by
      funext other
      rw [names_update, Option.map_some, Columns.names_alter made, on]
      by_cases same : table = other
      · subst same
        simp [held]
      · simp [same, Ne.symm same]
    cases s <;> first | exact ⟨applicable, changed⟩ | cases on

theorem names_run (ran : database.run script = some final) :
    final.names = database.names.run script := by
  induction script generalizing database with
  | nil =>
    obtain rfl : database = final := by simpa [run] using ran
    rfl
  | cons s script ih =>
    obtain ⟨next, executed, ran⟩ := Option.bind_eq_some_iff.mp ran
    rw [ih ran, (names_execute executed).2]
    rfl

/-- Each statement of a script that runs is applicable to the names when it is reached. -/
theorem applicable_of_run {earlier later : List Statement}
    (ran : database.run (earlier ++ s :: later) = some final) :
    s.Applicable (database.names.run earlier) := by
  obtain ⟨reached, next, before, executed⟩ := foldlM_reach ran
  rw [← names_run before]
  exact (names_execute executed).1

end Database

/-- A settled database has the names of the new snapshot. -/
theorem Dialect.names_settled (dialect : Dialect) (before after : Snapshot) :
    (dialect.settled before after).names = .ofSnapshot after := by
  funext name
  cases found : after.table? name with
  | none => simp [Database.names, settled, Names.ofSnapshot, found]
  | some table =>
    have columns : (dialect.settledColumns (before.table? name) table).names =
        {column | column ∈ table.fields.map Field.name} :=
      Columns.names_of_fields fun _ => Option.isSome_map
    simp [Database.names, settled, Names.ofSnapshot, found, columns]

/-- Every statement of a migration is applicable to the names that the statements before it leave,
and all of them leave the names of the new snapshot. -/
theorem migrate_applies_by_name {synthesizer : Synthesizer} {before after : Snapshot}
    {dialect : Dialect} {migration : Migration} (acceptedBefore : before.validate = .ok ())
    (acceptedAfter : after.validate = .ok ())
    (made : synthesizer.migrate before after dialect = .ok migration) :
    (∀ earlier s later, migration.statements = earlier ++ s :: later →
      s.Applicable ((Names.ofSnapshot before).run earlier)) ∧
    (Names.ofSnapshot before).run migration.statements = .ofSnapshot after := by
  obtain ⟨ran, -⟩ :=
    Synthesizer.migrate_settles (.ofValidate acceptedBefore) (.ofValidate acceptedAfter) made
  have start := Database.names_ofSnapshot dialect before
  constructor
  · intro earlier s later reached
    rw [reached] at ran
    rw [← start]
    exact Database.applicable_of_run ran
  · rw [← start, ← Database.names_run ran, Dialect.names_settled]

/-- Drafts whose texts have a column that is named as a rebuilt one is for a while. -/
def wordyDrafts : Snapshot where
  tables := [
    { name := "drafts"
      fields := [{ name := "body", type := .text }, { name := "body__rebuild", type := .text }] },
    { name := "notes", fields := [{ name := "id", type := .uuid, nullable := false }] }]

/-- Drafts that are numbers, without that column. -/
def countedDrafts : Snapshot where
  tables := [
    { name := "drafts", fields := [{ name := "body", type := .number }] },
    { name := "Notes", fields := [{ name := "id", type := .uuid, nullable := false }] }]

/-- The temporary name is free when the rebuild comes to it, as the column of that name was dropped
before. -/
theorem migrate_applies_by_name_drafts :
    ∃ migration : Migration,
      ({} : Synthesizer).migrate wordyDrafts countedDrafts .sqlite = .ok migration ∧
      (∃ earlier later,
        migration.statements =
          earlier ++ .addColumn "drafts" { name := "body__rebuild", type := .real } :: later ∧
        (Statement.addColumn "drafts" { name := "body__rebuild", type := .real }).Applicable
          ((Names.ofSnapshot wordyDrafts).run earlier)) ∧
      (Names.ofSnapshot wordyDrafts).run migration.statements = .ofSnapshot countedDrafts := by
  obtain ⟨each, final⟩ := migrate_applies_by_name (by decide) (by decide)
    (rfl : ({} : Synthesizer).migrate wordyDrafts countedDrafts .sqlite = .ok _)
  exact ⟨_, rfl, ⟨[_, _, _], _, rfl, each _ _ _ rfl⟩, final⟩

end SchemaDelta
