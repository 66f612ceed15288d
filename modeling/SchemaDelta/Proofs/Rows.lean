import Mathlib.Data.List.Forall2
import SchemaDelta.Proofs.Database

/-!
# Rows

What statements do to the rows of tables. A statement has no effect, and ends the script, when a row
lacks a value that it needs or has one where a new one would go. Names are different when snapshots
tell them apart, and null is a value like any other. What casts make of values is left open, and so
is what a new column has in the rows that are there already. What a database does beside, such as
the actions of foreign keys, is not looked at.

A script that runs on the columns of tables (`Database.run`) runs on all rows that fit them.
-/

namespace SchemaDelta

section Lists

variable {α β : Type} {f : α → Option β} {items : List α}

theorem exists_mapM_of_forall {P : β → Prop}
    (each : ∀ item ∈ items, ∃ result, f item = some result ∧ P result) :
    ∃ results, items.mapM f = some results ∧ ∀ result ∈ results, P result := by
  induction items with
  | nil => exact ⟨[], rfl, by simp⟩
  | cons item items ih =>
    obtain ⟨head, tail⟩ := List.forall_mem_cons.mp each
    obtain ⟨result, made, good⟩ := head
    obtain ⟨rest, mades, goods⟩ := ih tail
    exact ⟨result :: rest, by simp [made, mades], List.forall_mem_cons.mpr ⟨good, goods⟩⟩

end Lists

/-- The statement neither creates nor drops the table. -/
def Statement.Spares (table : String) (s : Statement) : Prop :=
  (∀ columns, s ≠ .createTable table columns) ∧ ∀ cascade, s ≠ .dropTable table cascade

theorem Statement.spares_of_alteredTable? {s : Statement} {other : String} (table : String)
    (on : s.alteredTable? = some other) : s.Spares table := by
  constructor <;> (rintro name rfl; cases on)

/-- What a database makes of values. -/
structure Engine (V : Type) where
  cast : NativeType → V → V
  /-- The value that a new column has in a row. -/
  initial : Column → Nat → V

/-- A row of a table: its identity, and its values by the names of the columns. -/
structure StoredRow (V : Type) where
  id : Nat
  values : String → Option V

variable {V : Type} {engine : Engine V}

namespace StoredRow

/-- The row with another value in one column. -/
def set (row : StoredRow V) (name : String) (value : Option V) : StoredRow V :=
  { row with values := Function.update row.values name value }

@[simp] theorem id_set (row : StoredRow V) (name : String) (value : Option V) :
    (row.set name value).id = row.id := rfl

@[simp] theorem values_set (row : StoredRow V) (name : String) (value : Option V) :
    (row.set name value).values = Function.update row.values name value := rfl

/-- What a statement does to a row of the table that it alters. -/
def alter (engine : Engine V) (row : StoredRow V) : Statement → Option (StoredRow V)
  | .addColumn _ column =>
    if (row.values column.name).isNone then
      some (row.set column.name (some (engine.initial column row.id)))
    else none
  | .dropColumn _ column =>
    if (row.values column).isSome then some (row.set column none) else none
  | .renameColumn _ column newName =>
    if (row.values column).isSome && (row.values newName).isNone then
      some ((row.set column none).set newName (row.values column))
    else none
  | .copyCast _ source target type => do
    let value ← row.values source
    if (row.values target).isSome then some (row.set target (some (engine.cast type value)))
    else none
  | .alterColumnType _ column type => do
    let value ← row.values column
    return row.set column (some (engine.cast type value))
  | _ => some row

/-- What a script does to a row of the table that it alters. -/
def run (engine : Engine V) (row : StoredRow V) (script : List Statement) :
    Option (StoredRow V) :=
  script.foldlM (alter engine) row

/-- The row has values for these columns and no others. -/
def Fits (row : StoredRow V) (columns : Columns) : Prop :=
  ∀ name, (row.values name).isSome ↔ (columns name).isSome

theorem Fits.set_some {row : StoredRow V} {columns : Columns} (fits : row.Fits columns)
    (name : String) (value : V) (state : ColumnState) :
    (row.set name (some value)).Fits (Function.update columns name (some state)) := by
  intro other
  by_cases same : other = name
  · simp [same]
  · simpa [same] using fits other

theorem Fits.set_none {row : StoredRow V} {columns : Columns} (fits : row.Fits columns)
    (name : String) : (row.set name none).Fits (Function.update columns name none) := by
  intro other
  by_cases same : other = name
  · simp [same]
  · simpa [same] using fits other

/-- A row that fits still does when a column in its place is declared in another way. -/
theorem Fits.redeclare {row : StoredRow V} {columns : Columns} (fits : row.Fits columns)
    {name : String} {state : ColumnState} (present : columns name = some state)
    (final : ColumnState) : row.Fits (Function.update columns name (some final)) := by
  intro other
  by_cases same : other = name
  · simpa [same, present] using fits name
  · simpa [same] using fits other

theorem Fits.exists_value {row : StoredRow V} {columns : Columns} (fits : row.Fits columns)
    {name : String} {state : ColumnState} (found : columns name = some state) :
    ∃ value, row.values name = some value :=
  Option.isSome_iff_exists.mp ((fits name).mpr (by simp [found]))

theorem Fits.value_eq_none {row : StoredRow V} {columns : Columns} (fits : row.Fits columns)
    {name : String} (free : columns name = none) : row.values name = none := by
  simpa [free] using fits name

/-- A statement that the columns allow does not fail on a row. -/
theorem alter_fits (engine : Engine V) {row : StoredRow V} {columns next : Columns} {s : Statement}
    (fits : row.Fits columns) (altered : columns.alter s = some next) :
    ∃ result, row.alter engine s = some result ∧ result.Fits next := by
  cases Columns.alters_of_alter altered with
  | added table column free =>
    exact ⟨_, by simp [alter, fits.value_eq_none free],
      fits.set_some column.name (engine.initial column row.id) (.ofColumn column)⟩
  | dropped table column state found =>
    obtain ⟨value, held⟩ := fits.exists_value found
    exact ⟨_, by simp [alter, held], fits.set_none column⟩
  | renamed table column newName state found free =>
    obtain ⟨value, held⟩ := fits.exists_value found
    exact ⟨_, by simp [alter, held, fits.value_eq_none free],
      (fits.set_none column).set_some newName value state⟩
  | copied table source target type state state' found found' =>
    obtain ⟨value, held⟩ := fits.exists_value found
    obtain ⟨former, held'⟩ := fits.exists_value found'
    refine ⟨_, by simp [alter, held, held']; rfl, ?_⟩
    rw [← Function.update_eq_self target columns, found']
    exact fits.set_some target _ state'
  | rowsSecured | policyDropped | policyCreated => exact ⟨row, rfl, fits⟩
  | redeclared column state final inPlace found made =>
    cases s with
    | alterColumnType table column' type =>
      obtain rfl : column' = column := Option.some.inj inPlace
      obtain ⟨value, held⟩ := fits.exists_value found
      exact ⟨_, by simp [alter, held], fits.set_some column' (engine.cast type value) final⟩
    | _ => first | exact ⟨row, rfl, fits.redeclare found final⟩ | cases inPlace

theorem Fits.release {row : StoredRow V} {columns : Columns} (fits : row.Fits columns)
    (lost : List String) : row.Fits (columns.release lost) := by
  intro name
  rw [fits name, Columns.release, Option.isSome_map]

end StoredRow

/-- The rows of tables by the names of the tables. -/
abbrev Contents (V : Type) := String → Option (List (StoredRow V))

namespace Contents

/-- What a statement does to the rows of a database. -/
def execute (engine : Engine V) (contents : Contents V) : Statement → Option (Contents V)
  | .createTable table _ =>
    if (contents table).isNone then some (Function.update contents table (some [])) else none
  | .dropTable table _ =>
    if (contents table).isSome then some (Function.update contents table none) else none
  | statement => do
    let table ← statement.alteredTable?
    let rows ← contents table
    let altered ← rows.mapM (StoredRow.alter engine · statement)
    return Function.update contents table (some altered)

/-- What a script does to the rows of a database. -/
def run (engine : Engine V) (contents : Contents V) (script : List Statement) :
    Option (Contents V) :=
  script.foldlM (execute engine) contents

/-- The contents have rows for the tables of a database and no others, and the rows fit. -/
def Fits (contents : Contents V) (database : Database) : Prop :=
  ∀ table, Option.Rel (fun rows columns => ∀ row ∈ rows, StoredRow.Fits row columns)
    (contents table) (database table)

variable {contents : Contents V}

theorem execute_eq_alterAt {s : Statement} {table : String} (on : s.alteredTable? = some table)
    (contents : Contents V) : contents.execute engine s =
      alterAt contents table fun rows => rows.mapM (StoredRow.alter engine · s) := by
  cases s <;> cases on <;> rfl

/-- What a statement does to the rows of the table that it alters. -/
theorem execute_of_alteredTable? {next : Contents V} {s : Statement} {table : String}
    (on : s.alteredTable? = some table) (executed : contents.execute engine s = some next) :
    ∃ rows altered, contents table = some rows ∧
      rows.mapM (StoredRow.alter engine · s) = some altered ∧
      next = Function.update contents table (some altered) :=
  alterAt_eq_some_iff.mp ((execute_eq_alterAt on contents).symm.trans executed)

/-- A statement leaves the tables alone that it is not about. -/
theorem execute_of_ne {next : Contents V} {s : Statement} {table : String}
    (executed : contents.execute engine s = some next) (other : s.alteredTable? ≠ some table)
    (spared : s.Spares table) : next table = contents table := by
  cases on : s.alteredTable? with
  | some table' =>
    obtain ⟨rows, altered, -, -, rfl⟩ := execute_of_alteredTable? on executed
    have apart : table ≠ table' := fun same => other (by rw [on, same])
    exact Function.update_of_ne apart ..
  | none =>
    cases s with
    | createTable table' columns =>
      simp only [execute, Option.ite_none_right_eq_some, Option.some.injEq] at executed
      obtain ⟨-, rfl⟩ := executed
      have apart : table ≠ table' := fun same => spared.1 columns (by rw [same])
      exact Function.update_of_ne apart ..
    | dropTable table' cascade =>
      simp only [execute, Option.ite_none_right_eq_some, Option.some.injEq] at executed
      obtain ⟨-, rfl⟩ := executed
      have apart : table ≠ table' := fun same => spared.2 cascade (by rw [same])
      exact Function.update_of_ne apart ..
    | _ => cases on

theorem Fits.exists_rows {database : Database} (fits : contents.Fits database) {table : String}
    {columns : Columns} (found : database table = some columns) :
    ∃ rows, contents table = some rows ∧ ∀ row ∈ rows, StoredRow.Fits row columns := by
  have related := fits table
  rw [found] at related
  cases held : contents table with
  | none =>
    rw [held] at related
    cases related
  | some rows =>
    rw [held] at related
    cases related with
    | some each => exact ⟨rows, rfl, each⟩

theorem Fits.eq_none {database : Database} (fits : contents.Fits database) {table : String}
    (absent : database table = none) : contents table = none := by
  have related := fits table
  rw [absent] at related
  cases held : contents table with
  | none => rfl
  | some rows =>
    rw [held] at related
    cases related

theorem Fits.update {database : Database} (fits : contents.Fits database) (table : String)
    {rows : List (StoredRow V)} {columns : Columns}
    (each : ∀ row ∈ rows, StoredRow.Fits row columns) :
    Fits (Function.update contents table (some rows))
      (Function.update database table (some columns)) := by
  intro other
  by_cases same : other = table
  · subst same
    rw [Function.update_self, Function.update_self]
    constructor
    exact each
  · simpa [same] using fits other

theorem Fits.without {database : Database} (fits : contents.Fits database) (table : String)
    (lost : List String) :
    Fits (Function.update contents table none) (database.without [table] lost) := by
  intro other
  by_cases same : other = table
  · subst same
    simp [Database.without]
  · rw [Function.update_of_ne same, Database.without, if_neg (by simpa using same)]
    cases found : database other with
    | none => simp [fits.eq_none found]
    | some columns =>
      obtain ⟨rows, held, each⟩ := fits.exists_rows found
      rw [held]
      constructor
      exact fun row member => (each row member).release lost

/-- A statement that the database allows does not fail on contents that fit it. -/
theorem execute_fits (engine : Engine V) {database next : Database} {s : Statement}
    (fits : contents.Fits database) (executed : database.execute s = some next) :
    ∃ result, contents.execute engine s = some result ∧ result.Fits next := by
  cases Database.executes_of_execute executed with
  | created table columns free distinct =>
    refine ⟨_, by simp [execute, fits.eq_none free]; rfl, ?_⟩
    exact fits.update table (fun row member => by cases member)
  | dropped table cascade columns found =>
    obtain ⟨rows, held, -⟩ := fits.exists_rows found
    exact ⟨_, by simp [execute, held], fits.without table _⟩
  | altered table columns altered on found made =>
    obtain ⟨rows, held, each⟩ := fits.exists_rows found
    obtain ⟨results, ran, eachFits⟩ : ∃ results,
        rows.mapM (StoredRow.alter engine · s) = some results ∧
          ∀ row ∈ results, StoredRow.Fits row altered := by
      have step := fun row member => StoredRow.alter_fits engine (each row member) made
      exact exists_mapM_of_forall step
    refine ⟨_, ?_, fits.update table eachFits⟩
    rw [execute_eq_alterAt on, alterAt_of_eq_some held, ran, Option.map_some]

/-- A script that runs on a database runs on contents that fit it. -/
theorem run_fits (engine : Engine V) {database final : Database} {script : List Statement}
    (fits : contents.Fits database) (ran : database.run script = some final) :
    ∃ result, contents.run engine script = some result ∧ result.Fits final := by
  induction script generalizing contents database with
  | nil =>
    obtain rfl : database = final := by simpa [Database.run] using ran
    exact ⟨contents, rfl, fits⟩
  | cons s script ih =>
    obtain ⟨next, executed, ran⟩ := Option.bind_eq_some_iff.mp ran
    obtain ⟨middle, step, fits⟩ := execute_fits engine fits executed
    obtain ⟨result, rest, fits⟩ := ih fits ran
    refine ⟨result, ?_, fits⟩
    rw [run, List.foldlM_cons, step]
    exact rest

end Contents

end SchemaDelta
