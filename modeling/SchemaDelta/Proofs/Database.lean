import SchemaDelta.Proofs.Overlay
import SchemaDelta.Schema.Snapshot
import SchemaDelta.Statement

/-!
# Databases

What statements do to tables and columns. A database knows the columns of every table, and of every
column what was declared for it. A statement has no effect, and ends the script, when its names do
not fit: it creates what is there, or changes what is not. What else a database may object to, such
as a column that a constraint still needs, is not looked at.

A statement acts on one of three levels, and so does a script all of whose statements stay on it: on
the tables, on the columns of one table (`Database.run_of_table`), or on one column in its place
(`Columns.run_of_column`).
-/

namespace SchemaDelta

/-- What was declared for a column. -/
structure ColumnState where
  type : NativeType
  primaryKey : Bool
  notNull : Bool
  default : Option DefaultValue
  foreignKey : Option ForeignKey

namespace ColumnState

/-- The column that a definition declares. A primary key is not null either. -/
def ofColumn (column : Column) : ColumnState where
  type := column.type
  primaryKey := column.key = .primaryKey
  notNull := column.key ≠ .none
  default := column.default.map RenderedDefault.declared
  foreignKey := column.references

/-- The column that a field calls for. -/
def ofField (dialect : Dialect) (field : Field) : ColumnState where
  type := dialect.columnType field.type
  primaryKey := field.primaryKey
  notNull := field.primaryKey || !field.nullable
  default := field.default
  foreignKey := field.foreignKey

/-- The clause about keys and nulls that declares the column. -/
def keyClause (state : ColumnState) : KeyClause :=
  if state.primaryKey then .primaryKey else if state.notNull then .notNull else .none

/-- The column after the tables of the given names were dropped together with the references to
them. -/
def release (tables : List String) (state : ColumnState) : ColumnState :=
  { state with foreignKey := state.foreignKey.filter (·.table ∉ tables) }

/-- What a statement does to a column that stays in its place. -/
def alter (state : ColumnState) : Statement → Option ColumnState
  | .alterColumnType _ _ type => some { state with type }
  | .alterNullable _ _ nullable => some { state with notNull := !nullable }
  | .setDefault _ _ default => some { state with default := some default.declared }
  | .dropDefault _ _ => some { state with default := none }
  | .addForeignKey _ _ key =>
    if state.foreignKey.isNone then some { state with foreignKey := some key } else none
  | .dropForeignKey _ _ => some { state with foreignKey := none }
  | _ => none

/-- What a script does to a column that stays in its place. -/
def run (state : ColumnState) (script : List Statement) : Option ColumnState :=
  script.foldlM alter state

theorem run_append (state : ColumnState) (first second : List Statement) :
    state.run (first ++ second) = (state.run first).bind (run · second) :=
  List.foldlM_append ..

theorem run_cons (state : ColumnState) (s : Statement) (script : List Statement) :
    state.run (s :: script) = (state.alter s).bind (run · script) :=
  List.foldlM_cons ..

@[simp] theorem release_nil (state : ColumnState) : state.release [] = state := by
  rcases state with ⟨type, primaryKey, notNull, default, foreignKey⟩
  cases foreignKey <;> rfl

/-- A column whose foreign key leads to a table that stays keeps it. -/
theorem release_eq_self {state : ColumnState} {tables : List String}
    (stays : ∀ key, state.foreignKey = some key → key.table ∉ tables) :
    state.release tables = state := by
  rcases state with ⟨type, primaryKey, notNull, default, foreignKey⟩
  cases foreignKey with
  | none => rfl
  | some key => simp [release, stays key rfl]

theorem release_release (state : ColumnState) (first second : List String) :
    (state.release first).release second = state.release (first ++ second) := by
  simp [release]

end ColumnState

/-- The columns of a table by their names. -/
abbrev Columns := String → Option ColumnState

/-- The column that a statement alters in its place. The constraint of a foreign key belongs to the
column, as its name is made from the names of table and column. -/
def Statement.alteredColumn? : Statement → Option String
  | alterColumnType _ column _ => some column
  | alterNullable _ column _ => some column
  | setDefault _ column _ => some column
  | dropDefault _ column => some column
  | addForeignKey _ column _ => some column
  | dropForeignKey _ column => some column
  | _ => none

namespace Columns

/-- The columns of a table that is created. -/
def ofList (columns : List Column) : Columns := fun name =>
  (columns.find? (·.name == name)).map ColumnState.ofColumn

/-- The columns after the tables of the given names were dropped together with the references to
them. -/
def release (tables : List String) (columns : Columns) : Columns := fun name =>
  (columns name).map (ColumnState.release tables)

/-- The columns that a table calls for. -/
def ofTable (dialect : Dialect) (table : Table) : Columns := fun name =>
  (table.field? name).map (ColumnState.ofField dialect)

/-- What a statement does to the columns of the table that it alters. -/
def alter (columns : Columns) : Statement → Option Columns
  | .addColumn _ column =>
    if (columns column.name).isNone then
      some (Function.update columns column.name (some (.ofColumn column)))
    else none
  | .dropColumn _ column =>
    if (columns column).isSome then some (Function.update columns column none) else none
  | .renameColumn _ column newName =>
    if (columns column).isSome && (columns newName).isNone then
      some (Function.update (Function.update columns column none) newName (columns column))
    else none
  | .copyCast _ source target _ =>
    if (columns source).isSome && (columns target).isSome then some columns else none
  | .enableRowSecurity _ => some columns
  | .dropPolicy _ _ => some columns
  | .createPolicy _ _ _ => some columns
  | statement => do
    let column ← statement.alteredColumn?
    let state ← columns column
    let altered ← state.alter statement
    return Function.update columns column (some altered)

/-- What a script does to the columns of the table that it alters. -/
def run (columns : Columns) (script : List Statement) : Option Columns :=
  script.foldlM alter columns

theorem release_nil (columns : Columns) : columns.release [] = columns := by
  funext name
  cases found : columns name <;> simp [release, found]

theorem release_release (columns : Columns) (first second : List String) :
    (columns.release first).release second = columns.release (first ++ second) := by
  funext name
  cases found : columns name <;> simp [release, found, ColumnState.release_release]

theorem release_ofTable (dialect : Dialect) (table : Table) (lost : List String) (name : String) :
    (ofTable dialect table).release lost name =
      (table.field? name).map fun field => (ColumnState.ofField dialect field).release lost := by
  simp [release, ofTable, Function.comp_def]

theorem alter_eq_alterAt {s : Statement} {column : String} (on : s.alteredColumn? = some column)
    (columns : Columns) : columns.alter s = alterAt columns column (ColumnState.alter · s) := by
  cases s <;> cases on <;> rfl

/-- The columns after a statement about one of them. -/
theorem alter_of_alteredColumn? {columns next : Columns} {s : Statement} {column : String}
    (on : s.alteredColumn? = some column) (altered : columns.alter s = some next) :
    ∃ state final, columns column = some state ∧ state.alter s = some final ∧
      next = Function.update columns column (some final) :=
  alterAt_eq_some_iff.mp ((alter_eq_alterAt on columns).symm.trans altered)

/-- What a statement makes of the columns of the table that it alters, and what it needs of them. -/
inductive Alters (columns : Columns) : Statement → Columns → Prop
  | added (table : String) (column : Column) (free : columns column.name = none) :
    Alters columns (.addColumn table column)
      (Function.update columns column.name (some (.ofColumn column)))
  | dropped (table column : String) (state : ColumnState) (found : columns column = some state) :
    Alters columns (.dropColumn table column) (Function.update columns column none)
  | renamed (table column newName : String) (state : ColumnState)
    (found : columns column = some state) (free : columns newName = none) :
    Alters columns (.renameColumn table column newName)
      (Function.update (Function.update columns column none) newName (some state))
  | copied (table source target : String) (type : NativeType) (state state' : ColumnState)
    (found : columns source = some state) (found' : columns target = some state') :
    Alters columns (.copyCast table source target type) columns
  | rowsSecured (table : String) : Alters columns (.enableRowSecurity table) columns
  | policyDropped (table : String) (operation : Operation) :
    Alters columns (.dropPolicy table operation) columns
  | policyCreated (table : String) (operation : Operation) (predicate : String) :
    Alters columns (.createPolicy table operation predicate) columns
  | redeclared {s : Statement} (column : String) (state final : ColumnState)
    (on : s.alteredColumn? = some column) (found : columns column = some state)
    (made : state.alter s = some final) :
    Alters columns s (Function.update columns column (some final))

theorem alters_of_alter {columns next : Columns} {s : Statement}
    (altered : columns.alter s = some next) : columns.Alters s next := by
  cases inPlace : s.alteredColumn? with
  | some column =>
    obtain ⟨state, final, found, made, rfl⟩ := alter_of_alteredColumn? inPlace altered
    exact .redeclared column state final inPlace found made
  | none =>
    cases s with
    | addColumn table column =>
      simp only [alter, Option.ite_none_right_eq_some, Option.some.injEq,
        Option.isNone_iff_eq_none] at altered
      obtain ⟨free, rfl⟩ := altered
      exact .added table column free
    | dropColumn table column =>
      simp only [alter, Option.ite_none_right_eq_some, Option.some.injEq,
        Option.isSome_iff_exists] at altered
      obtain ⟨⟨state, found⟩, rfl⟩ := altered
      exact .dropped table column state found
    | renameColumn table column newName =>
      simp only [alter, Option.ite_none_right_eq_some, Option.some.injEq, Bool.and_eq_true,
        Option.isSome_iff_exists, Option.isNone_iff_eq_none] at altered
      obtain ⟨⟨⟨state, found⟩, free⟩, rfl⟩ := altered
      rw [found]
      exact .renamed table column newName state found free
    | copyCast table source target type =>
      simp only [alter, Option.ite_none_right_eq_some, Option.some.injEq, Bool.and_eq_true,
        Option.isSome_iff_exists] at altered
      obtain ⟨⟨⟨state, found⟩, ⟨state', found'⟩⟩, rfl⟩ := altered
      exact .copied table source target type state state' found found'
    | enableRowSecurity table =>
      cases altered
      exact .rowsSecured table
    | dropPolicy table operation =>
      cases altered
      exact .policyDropped table operation
    | createPolicy table operation predicate =>
      cases altered
      exact .policyCreated table operation predicate
    | createTable | dropTable => cases altered
    | _ => cases inPlace

theorem Alters.alter_eq_some {columns next : Columns} {s : Statement}
    (alters : columns.Alters s next) : columns.alter s = some next := by
  cases alters with
  | added table column free => simp [alter, free]
  | dropped table column state found => simp [alter, found]
  | renamed table column newName state found free => simp [alter, found, free]
  | copied table source target type state state' found found' => simp [alter, found, found']
  | rowsSecured | policyDropped | policyCreated => rfl
  | redeclared column state final on found made =>
    rw [alter_eq_alterAt on, alterAt_of_eq_some found, made, Option.map_some]

/-- The relation says all that a statement does, and no more. -/
theorem alter_eq_some_iff {columns next : Columns} {s : Statement} :
    columns.alter s = some next ↔ columns.Alters s next :=
  ⟨alters_of_alter, Alters.alter_eq_some⟩

theorem run_of_column {columns : Columns} {script : List Statement} {column : String}
    {state final : ColumnState} (on : ∀ s ∈ script, s.alteredColumn? = some column)
    (found : columns column = some state) (ran : state.run script = some final) :
    columns.run script = some (Function.update columns column (some final)) :=
  foldlM_at_key alter ColumnState.alter column script
    (fun s member => alter_eq_alterAt (on s member)) found ran

theorem run_append (columns : Columns) (first second : List Statement) :
    columns.run (first ++ second) = (columns.run first).bind (run · second) :=
  List.foldlM_append ..

end Columns

/-- The tables by their names. -/
abbrev Database := String → Option Columns

/-- The table whose columns or policies a statement alters. -/
def Statement.alteredTable? : Statement → Option String
  | createTable _ _ => none
  | dropTable _ _ => none
  | addColumn table _ => some table
  | dropColumn table _ => some table
  | renameColumn table _ _ => some table
  | alterColumnType table _ _ => some table
  | copyCast table _ _ _ => some table
  | alterNullable table _ _ => some table
  | setDefault table _ _ => some table
  | dropDefault table _ => some table
  | addForeignKey table _ _ => some table
  | dropForeignKey table _ => some table
  | enableRowSecurity table => some table
  | dropPolicy table _ => some table
  | createPolicy table _ _ => some table

namespace Statement

/-- Whether a statement alters columns of a table that stays. -/
def altersColumns : Statement → Bool
  | createTable _ _ => false
  | dropTable _ _ => false
  | enableRowSecurity _ => false
  | dropPolicy _ _ => false
  | createPolicy _ _ _ => false
  | _ => true

/-- The statement alters columns of one table. -/
def OnTable (table : String) (s : Statement) : Prop :=
  s.alteredTable? = some table ∧ s.altersColumns = true

/-- The statement alters one column in its place. -/
def OnColumn (table column : String) (s : Statement) : Prop :=
  s.alteredTable? = some table ∧ s.alteredColumn? = some column

theorem OnColumn.onTable {table column : String} {s : Statement} (on : s.OnColumn table column) :
    s.OnTable table := by
  rcases on with ⟨inTable, inPlace⟩
  refine ⟨inTable, ?_⟩
  cases s <;> first | rfl | cases inPlace

end Statement

namespace Database

/-- A database without tables. -/
def empty : Database := fun _ => none

/-- The database of a snapshot. -/
def ofSnapshot (dialect : Dialect) (snapshot : Snapshot) : Database := fun name =>
  (snapshot.table? name).map (Columns.ofTable dialect)

/-- The database without the given tables, and without the references to those that are dropped
together with what depends on them. -/
def without (database : Database) (tables cascaded : List String) : Database := fun name =>
  if name ∈ tables then none else (database name).map (Columns.release cascaded)

/-- What a statement does to a database. -/
def execute (database : Database) : Statement → Option Database
  | .createTable table columns =>
    if (database table).isNone && (columns.map Column.name).Nodup then
      some (Function.update database table (some (.ofList columns)))
    else none
  | .dropTable table cascade =>
    if (database table).isSome then
      some (database.without [table] (if cascade then [table] else []))
    else none
  | statement => do
    let table ← statement.alteredTable?
    let columns ← database table
    let altered ← columns.alter statement
    return Function.update database table (some altered)

/-- What a script does to a database. -/
def run (database : Database) (script : List Statement) : Option Database :=
  script.foldlM execute database

theorem without_nil (database : Database) : database.without [] [] = database := by
  funext name
  cases found : database name <;> simp [without, found, Columns.release_nil]

theorem without_without (database : Database) (tables cascaded tables' cascaded' : List String) :
    (database.without tables cascaded).without tables' cascaded' =
      database.without (tables ++ tables') (cascaded ++ cascaded') := by
  funext name
  by_cases gone : name ∈ tables
  · simp [without, gone]
  · cases found : database name <;> simp [without, gone, found, Columns.release_release]

theorem execute_eq_alterAt {s : Statement} {table : String} (on : s.alteredTable? = some table)
    (database : Database) : database.execute s = alterAt database table (Columns.alter · s) := by
  cases s <;> cases on <;> rfl

/-- What a statement does to the table that it alters. -/
theorem execute_of_alteredTable? {database next : Database} {s : Statement} {table : String}
    (on : s.alteredTable? = some table) (executed : database.execute s = some next) :
    ∃ columns altered, database table = some columns ∧ columns.alter s = some altered ∧
      next = Function.update database table (some altered) :=
  alterAt_eq_some_iff.mp ((execute_eq_alterAt on database).symm.trans executed)

/-- What a statement makes of a database, and what it needs of it. -/
inductive Executes (database : Database) : Statement → Database → Prop
  | created (table : String) (columns : List Column) (free : database table = none)
    (distinct : (columns.map Column.name).Nodup) :
    Executes database (.createTable table columns)
      (Function.update database table (some (.ofList columns)))
  | dropped (table : String) (cascade : Bool) (columns : Columns)
    (found : database table = some columns) :
    Executes database (.dropTable table cascade)
      (database.without [table] (if cascade then [table] else []))
  | altered {s : Statement} (table : String) (columns next : Columns)
    (on : s.alteredTable? = some table) (found : database table = some columns)
    (made : columns.alter s = some next) :
    Executes database s (Function.update database table (some next))

theorem executes_of_execute {database next : Database} {s : Statement}
    (executed : database.execute s = some next) : database.Executes s next := by
  cases on : s.alteredTable? with
  | some table =>
    obtain ⟨columns, altered, found, made, rfl⟩ := execute_of_alteredTable? on executed
    exact .altered table columns altered on found made
  | none =>
    cases s with
    | createTable table columns =>
      simp only [execute, Option.ite_none_right_eq_some, Option.some.injEq, Bool.and_eq_true,
        Option.isNone_iff_eq_none, decide_eq_true_eq] at executed
      obtain ⟨⟨free, distinct⟩, rfl⟩ := executed
      exact .created table columns free distinct
    | dropTable table cascade =>
      simp only [execute, Option.ite_none_right_eq_some, Option.some.injEq,
        Option.isSome_iff_exists] at executed
      obtain ⟨⟨columns, found⟩, rfl⟩ := executed
      exact .dropped table cascade columns found
    | _ => cases on

theorem Executes.execute_eq_some {database next : Database} {s : Statement}
    (executes : database.Executes s next) : database.execute s = some next := by
  cases executes with
  | created table columns free distinct => simp [execute, free, distinct]
  | dropped table cascade columns found => simp [execute, found]
  | altered table columns next on found made =>
    rw [execute_eq_alterAt on, alterAt_of_eq_some found, made, Option.map_some]

theorem execute_eq_some_iff {database next : Database} {s : Statement} :
    database.execute s = some next ↔ database.Executes s next :=
  ⟨executes_of_execute, Executes.execute_eq_some⟩

theorem run_of_table {database : Database} {script : List Statement} {table : String}
    {columns final : Columns} (on : ∀ s ∈ script, s.alteredTable? = some table)
    (found : database table = some columns) (ran : columns.run script = some final) :
    database.run script = some (Function.update database table (some final)) :=
  foldlM_at_key execute Columns.alter table script
    (fun s member => execute_eq_alterAt (on s member)) found ran

theorem run_append (database : Database) (first second : List Statement) :
    database.run (first ++ second) = (database.run first).bind (run · second) :=
  List.foldlM_append ..

end Database

end SchemaDelta
