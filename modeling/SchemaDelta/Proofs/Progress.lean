import SchemaDelta.Proofs.Database
import SchemaDelta.Proofs.Lookup

/-!
# What a script has done so far

Every statement adds some columns and removes some, and it puts some foreign keys out of force. So
whether a table or a column is there after a part of a script, or a foreign key in force, depends
only on the start and on which statements are among those executed.
-/

namespace SchemaDelta

namespace Statement

variable (table name : String)

/-- The statement makes a column of this name in the table. -/
def AddsColumn : Statement → Prop
  | createTable table' columns => table' = table ∧ name ∈ columns.map Column.name
  | addColumn table' column => table' = table ∧ column.name = name
  | renameColumn table' _ newName => table' = table ∧ newName = name
  | _ => False

/-- The statement takes a column of this name from the table. -/
def RemovesColumn : Statement → Prop
  | dropTable table' _ => table' = table
  | dropColumn table' column => table' = table ∧ column = name
  | renameColumn table' column _ => table' = table ∧ column = name
  | _ => False

/-- The statement may give a column of this name this foreign key. -/
def Declares (key : ForeignKey) : Statement → Prop
  | createTable table' _ => table' = table
  | addColumn table' column => table' = table ∧ column.name = name
  | renameColumn table' _ _ => table' = table
  | addForeignKey table' column key' => table' = table ∧ column = name ∧ key' = key
  | _ => False

/-- The statement puts the foreign key of the column out of force. -/
def Releases (key : ForeignKey) : Statement → Prop
  | dropTable table' cascade => table' = table ∨ cascade = true ∧ table' = key.table
  | dropColumn table' column => table' = table ∧ column = name
  | dropForeignKey table' column => table' = table ∧ column = name
  | _ => False

end Statement

theorem ColumnState.release_foreignKey_iff {state : ColumnState} {lost : List String}
    {key : ForeignKey} :
    (state.release lost).foreignKey = some key ↔
      state.foreignKey = some key ∧ key.table ∉ lost := by
  simp [release, Option.filter_eq_some_iff]

/-- Of the statements about a column in its place the one that drops its foreign key releases it. -/
theorem Statement.releases_iff_of_onColumn {s : Statement} {table column name : String}
    {key : ForeignKey} (on : s.OnColumn table column) :
    s.Releases table name key ↔ s = .dropForeignKey table name := by
  constructor
  · intro releases
    cases s with
    | dropForeignKey table' column' =>
      obtain ⟨rfl, rfl⟩ := releases
      rfl
    | _ => first | exact releases.elim | cases on.2
  · rintro rfl
    exact ⟨rfl, rfl⟩

/-- A column in its place keeps a foreign key that is not declared anew unless it is dropped. -/
theorem ColumnState.alter_foreignKey_iff {state final : ColumnState} {s : Statement}
    {table column : String} {key : ForeignKey} (on : s.OnColumn table column)
    (altered : state.alter s = some final) (undeclared : s ≠ .addForeignKey table column key) :
    final.foreignKey = some key ↔
      state.foreignKey = some key ∧ s ≠ .dropForeignKey table column := by
  cases s with
  | alterColumnType | alterNullable | setDefault | dropDefault =>
    cases altered
    simp
  | addForeignKey table' column' key' =>
    obtain rfl : table' = table := Option.some.inj on.1
    obtain rfl : column' = column := Option.some.inj on.2
    -- only a column without a foreign key is given one
    simp only [alter, Option.ite_none_right_eq_some, Option.some.injEq,
      Option.isNone_iff_eq_none] at altered
    obtain ⟨free, rfl⟩ := altered
    have other : key' ≠ key := fun same => undeclared (same ▸ rfl)
    simp [free, other]
  | dropForeignKey table' column' =>
    obtain rfl : table' = table := Option.some.inj on.1
    obtain rfl : column' = column := Option.some.inj on.2
    cases altered
    simp
  | _ => cases altered

namespace Columns

variable {columns next : Columns} {s : Statement} {table name : String}

/-- The columns after a statement that does not remove the one of a name. -/
theorem alter_isSome_iff (on : s.alteredTable? = some table) (altered : columns.alter s = some next)
    (kept : ¬ s.RemovesColumn table name) :
    (next name).isSome ↔ (columns name).isSome ∨ s.AddsColumn table name := by
  cases alters_of_alter altered with
  | added table' column free =>
    obtain rfl : table' = table := Option.some.inj on
    by_cases same : name = column.name
    · simp [same, Statement.AddsColumn]
    · simp [same, Ne.symm same, Statement.AddsColumn]
  | dropped table' column state found =>
    obtain rfl : table' = table := Option.some.inj on
    have other : name ≠ column := fun same => kept ⟨rfl, same.symm⟩
    simp [other, Statement.AddsColumn]
  | renamed table' column newName state found free =>
    obtain rfl : table' = table := Option.some.inj on
    have other : name ≠ column := fun same => kept ⟨rfl, same.symm⟩
    by_cases same : name = newName
    · simp [same, Statement.AddsColumn]
    · simp [same, Ne.symm same, other, Statement.AddsColumn]
  | copied | rowsSecured | policyDropped | policyCreated => simp [Statement.AddsColumn]
  | redeclared column state final inPlace found made =>
    have adds : ¬ s.AddsColumn table name := by
      cases s <;> first | exact not_false | cases inPlace
    by_cases same : name = column
    · simp [same, found]
    · simp [same, adds]

/-- The columns after a statement that does not declare the foreign key of one of them. -/
theorem alter_foreignKey_iff {key : ForeignKey} (on : s.alteredTable? = some table)
    (altered : columns.alter s = some next) (undeclared : ¬ s.Declares table name key) :
    (next name).bind ColumnState.foreignKey = some key ↔
      (columns name).bind ColumnState.foreignKey = some key ∧ ¬ s.Releases table name key := by
  cases alters_of_alter altered with
  | added table' column free =>
    obtain rfl : table' = table := Option.some.inj on
    have other : name ≠ column.name := fun same => undeclared ⟨rfl, same.symm⟩
    simp [other, Statement.Releases]
  | dropped table' column state found =>
    obtain rfl : table' = table := Option.some.inj on
    by_cases same : name = column
    · simp [same, Statement.Releases]
    · simp [same, Ne.symm same, Statement.Releases]
  | renamed => exact absurd (Option.some.inj on) undeclared
  | copied | rowsSecured | policyDropped | policyCreated => simp [Statement.Releases]
  | redeclared column state final inPlace found made =>
    rw [Statement.releases_iff_of_onColumn ⟨on, inPlace⟩]
    by_cases same : column = name
    · subst same
      have other : s ≠ .addForeignKey table column key := by
        rintro rfl
        exact undeclared ⟨rfl, rfl, rfl⟩
      rw [Function.update_self, Option.bind_some, found, Option.bind_some,
        ColumnState.alter_foreignKey_iff ⟨on, inPlace⟩ made other]
    · have other : s ≠ .dropForeignKey table name := by
        rintro rfl
        exact same (Option.some.inj inPlace).symm
      rw [Function.update_of_ne (Ne.symm same), and_iff_left other]

end Columns

namespace Database

variable {database next : Database} {s : Statement} {table name : String} {key : ForeignKey}

/-- The column of a name in the table of a name. -/
def column? (database : Database) (table name : String) : Option ColumnState :=
  (database table).bind (· name)

/-- The foreign key in force for a column. -/
def foreignKey? (database : Database) (table name : String) : Option ForeignKey :=
  (database.column? table name).bind ColumnState.foreignKey

theorem column?_ofSnapshot (dialect : Dialect) (snapshot : Snapshot) (table name : String) :
    (ofSnapshot dialect snapshot).column? table name =
      (snapshot.field? table name).map (ColumnState.ofField dialect) := by
  cases found : snapshot.table? table <;>
    simp [column?, ofSnapshot, Snapshot.field?, found, Columns.ofTable]

theorem foreignKey?_ofSnapshot (dialect : Dialect) (snapshot : Snapshot) (table name : String) :
    (ofSnapshot dialect snapshot).foreignKey? table name = snapshot.foreignKey? table name := by
  change ((ofSnapshot dialect snapshot).column? table name).bind _ =
    (snapshot.field? table name).bind _
  rw [column?_ofSnapshot]
  cases snapshot.field? table name <;> rfl

theorem column?_without {tables cascaded : List String} (kept : table ∉ tables) :
    (database.without tables cascaded).column? table name =
      (database.column? table name).map (ColumnState.release cascaded) := by
  cases found : database table <;> simp [column?, without, kept, found, Columns.release]

/-- A statement about one column in its place finds the column, and changes it. -/
theorem alter_of_onColumn (on : s.OnColumn table name) (executed : database.execute s = some next) :
    ∃ state final, database.column? table name = some state ∧ state.alter s = some final := by
  obtain ⟨columns, altered, found, made, -⟩ := execute_of_alteredTable? on.1 executed
  obtain ⟨state, final, present, changed, -⟩ := Columns.alter_of_alteredColumn? on.2 made
  exact ⟨state, final, by rw [column?, found, Option.bind_some, present], changed⟩

/-- What a statement does to the presence of columns that it does not remove. -/
theorem execute_isSome_iff (executed : database.execute s = some next)
    (kept : ¬ s.RemovesColumn table name) :
    (next.column? table name).isSome ↔
      (database.column? table name).isSome ∨ s.AddsColumn table name := by
  cases executes_of_execute executed with
  | created table' columns free distinct =>
    by_cases same : table = table'
    · subst same
      simp [column?, free, Statement.AddsColumn, Columns.ofList]
    · simp [column?, same, Ne.symm same, Statement.AddsColumn]
  | dropped table' cascade columns found =>
    have other : table ≠ table' := fun same => kept same.symm
    rw [column?_without (by simp [other]), Option.isSome_map]
    simp [Statement.AddsColumn]
  | altered table' columns altered on found made =>
    by_cases same : table' = table
    · subst same
      simp only [column?, Function.update_self, found, Option.bind_some]
      exact Columns.alter_isSome_iff on made kept
    · have adds : ¬ s.AddsColumn table name := by
        cases s <;> simp_all [Statement.alteredTable?, Statement.AddsColumn]
      simp [column?, Ne.symm same, adds]

/-- What a statement does to the presence of tables that it does not drop. -/
theorem execute_table_iff (executed : database.execute s = some next)
    (kept : ∀ cascade, s ≠ .dropTable table cascade) :
    (next table).isSome ↔ (database table).isSome ∨ ∃ columns, s = .createTable table columns := by
  cases executes_of_execute executed with
  | created table' columns free distinct =>
    by_cases same : table = table'
    · simp [same]
    · simp [same, Ne.symm same]
  | dropped table' cascade columns found =>
    have other : table ≠ table' := fun same => kept cascade (same ▸ rfl)
    simp [without, other]
  | altered table' columns altered on found made =>
    have creates : ¬ ∃ columns, s = .createTable table columns := by
      rintro ⟨columns, rfl⟩
      cases on
    by_cases same : table = table'
    · simp [same, found]
    · simp [same, creates]

/-- What a statement does to a foreign key that it does not declare. -/
theorem execute_foreignKey_iff (executed : database.execute s = some next)
    (undeclared : ¬ s.Declares table name key) :
    next.foreignKey? table name = some key ↔
      database.foreignKey? table name = some key ∧ ¬ s.Releases table name key := by
  cases executes_of_execute executed with
  | created table' columns free distinct =>
    have other : table ≠ table' := fun same => undeclared same.symm
    simp [foreignKey?, column?, other, Statement.Releases]
  | dropped table' cascade columns found =>
    by_cases same : table = table'
    · simp [foreignKey?, column?, without, same, Statement.Releases]
    · rw [foreignKey?, foreignKey?, column?_without (by simp [same])]
      cases database.column? table name with
      | none => simp
      | some state =>
        simp only [Option.map_some, Option.bind_some, ColumnState.release_foreignKey_iff]
        cases cascade <;> simp [Statement.Releases, Ne.symm same, eq_comm]
  | altered table' columns altered on found made =>
    by_cases same : table' = table
    · subst same
      simp only [foreignKey?, column?, Function.update_self, found, Option.bind_some]
      exact Columns.alter_foreignKey_iff on made undeclared
    · have releases : ¬ s.Releases table name key := by
        cases s <;> simp_all [Statement.alteredTable?, Statement.Releases]
      simp [foreignKey?, column?, Ne.symm same, releases]

end Database

end SchemaDelta
