import SchemaDelta.Proofs.Settlement
import SchemaDelta.Proofs.Settlement.Warnings

/-!
# Convergence

A migration leads to the database of the new snapshot. Where columns can be altered in place nothing
is left out but changed key flags, and there is a warning about each of them.
-/

namespace SchemaDelta

/-- The database has the tables of a snapshot and no others, each with the columns of its fields and
no others, and every column is related to its field. -/
structure Database.Realizes (database : Database) (relation : Table → Field → ColumnState → Prop)
    (snapshot : Snapshot) : Prop where
  tables : ∀ name, (database name).isSome ↔ name ∈ snapshot.tableNames
  columns : ∀ table ∈ snapshot.tables, ∃ columns, database table.name = some columns ∧
    (∀ name, (columns name).isSome ↔ name ∈ table.fields.map Field.name) ∧
    ∀ field ∈ table.fields, ∃ state, columns field.name = some state ∧ relation table field state

/-- The statements of a migration settle the database of the old snapshot. -/
theorem Synthesizer.migrate_settles {synthesizer : Synthesizer} {before after : Snapshot}
    {dialect : Dialect} {migration : Migration} (validBefore : before.Valid)
    (validAfter : after.Valid)
    (made : synthesizer.migrate before after dialect = .ok migration) :
    (Database.ofSnapshot dialect before).run migration.statements =
        some (dialect.settled before after) ∧
      migration.warnings = dialect.settledWarnings before after := by
  obtain ⟨complete, rfl⟩ := Plan.toMigration_eq_ok_iff.mp made
  exact ⟨Planner.run_carryOut validBefore validAfter rfl complete,
    Planner.warnings_carryOut validBefore validAfter rfl complete⟩

/-- The snapshot is accepted, and a primary key is declared not null. -/
structure Snapshot.Regular (snapshot : Snapshot) : Prop where
  accepted : snapshot.validate = .ok ()
  keysNotNull : ∀ table ∈ snapshot.tables, ∀ field ∈ table.fields,
    field.primaryKey = true → field.nullable = false

/-- A column has the type of its field and is null, defaults and refers as the field does. Defaults
are compared as diffs compare them. -/
structure ColumnState.Agrees (dialect : Dialect) (field : Field) (state : ColumnState) : Prop where
  type : state.type = dialect.columnType field.type
  notNull : state.notNull = (field.primaryKey || !field.nullable)
  default : (state.default == field.default) = true
  foreignKey : state.foreignKey = field.foreignKey

/-- Notes with a key that refer to their owners. -/
def ownedNotes : Snapshot where
  tables := [
    { name := "owners"
      fields := [{ name := "id", type := .uuid, nullable := false, primaryKey := true }] },
    { name := "notes"
      fields := [
        { name := "id", type := .number, nullable := false, primaryKey := true },
        { name := "owner"
          type := .uuid
          foreignKey := some { table := "owners", field := "id" } }] }]

/-- Notes without a key and without owners. -/
def looseNotes : Snapshot where
  tables := [
    { name := "notes"
      fields := [
        { name := "id", type := .text, default := some (.constant (.text "new")) },
        { name := "owner", type := .uuid, nullable := false }] }]

theorem ownedNotes_regular : ownedNotes.Regular := ⟨by decide, by decide⟩

theorem looseNotes_regular : looseNotes.Regular := ⟨by decide, by decide⟩

end SchemaDelta
