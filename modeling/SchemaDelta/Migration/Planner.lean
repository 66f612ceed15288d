import SchemaDelta.Config
import SchemaDelta.Migration

/-!
# Planning migrations

Steps come in a fixed order: removed tables are dropped; new tables are created, and then their
foreign keys where those are constraints of their own; each modified table gets new columns, loses
old ones, and has the others altered; at last come the policies of the tables with changed rules.

An embedded database cannot change the type of a column, so the column is rebuilt: a new one is
added under a temporary name, the values are copied, and it takes the place of the old one. Other
attributes it cannot change are skipped with a warning.
-/

namespace SchemaDelta

/-- What migrations are planned with. -/
structure Synthesizer where
  compiler : Compiler := compileSql
  config : Config := {}

/-- A synthesizer at work for a dialect, towards a target snapshot. -/
structure Planner extends Synthesizer where
  dialect : Dialect
  target : Snapshot

/-- The temporary name of a rebuilt column at the `k`-th attempt. -/
def rebuildCandidate (column : String) : Nat → String
  | 0 => column ++ "__rebuild"
  | k + 1 => column ++ "__rebuild_" ++ toString (k + 1)

/-- The first temporary name that no field of the table has. One of the first `n + 1` attempts is
free in a table of `n` fields. -/
def rebuildName (table : Table) (column : String) : String :=
  let isFree (k : Nat) : Bool := (table.field? (rebuildCandidate column k)).isNone
  rebuildCandidate column (((List.range (table.fields.length + 1)).find? isFree).getD 0)

namespace Planner

variable (planner : Planner)

/-- What expressions on a table may refer to. -/
def scope (table : String) : Scope where
  dialect := planner.dialect
  table := table
  schema := planner.target
  bindings := planner.config.bindings

/-- Compiles the expression of a default, with the function names at its root in upper case. -/
def computedDefault (table field : String) (e : Expr) : Except SchemaError String :=
  match planner.compiler (planner.scope table) e.uppercaseCalls with
  | .ok sql => .ok (planner.dialect.expressionDefault sql)
  | .error cause => .error (.defaultCompile table field cause)

/-- The SQL of a default. Only a computed one can fail. -/
def defaultSql (table field : String) : DefaultValue → Except SchemaError String
  | .constant value => .ok (planner.dialect.constantLiteral value)
  | .computed e => planner.computedDefault table field e

/-- Renders a default. -/
def renderDefault (table field : String) (value : DefaultValue) :
    Except SchemaError RenderedDefault := do
  return ⟨value, ← planner.defaultSql table field value⟩

/-- Renders the default of a field, if it has one. -/
def fieldDefault (table : String) (field : Field) : Except SchemaError (Option RenderedDefault) :=
  match field.default with
  | none => .ok none
  | some value => do return some (← planner.renderDefault table field.name value)

/-- The column of a field. -/
def column (table : String) (field : Field) : Except SchemaError Column := do
  return planner.dialect.column field (← planner.fieldDefault table field)

/-- Drops a table, along with what depends on it where that is configured and the dialect can do
it. -/
def dropTable (table : Table) : Plan :=
  .execute [.dropTable table.name (planner.dialect.dropsCascade planner.config.dropCascade)]

/-- Creates a table with the columns of its fields. Any default that does not compile is a
failure. -/
def createTable (table : Table) : Plan :=
  .ofResult (table.fields.mapM (planner.column table.name)) fun columns =>
    .execute [.createTable table.name columns]

/-- Adds the constraint for the foreign key of a column. -/
def addConstraint (table column : String) : Option ForeignKey → Plan
  | some key =>
    if planner.dialect.usesSeparateForeignKeys then
      .execute [.addForeignKey table column key]
    else .nothing
  | none => .nothing

/-- Drops the constraint for the foreign key of a column. -/
def dropConstraint (table column : String) : Option ForeignKey → Plan
  | some _ =>
    if planner.dialect.usesSeparateForeignKeys then
      .execute [.dropForeignKey table column]
    else .nothing
  | none => .nothing

/-- Adds the constraints for all foreign keys of a table. -/
def addConstraints (table : Table) : Plan :=
  .sequence (table.fields.map fun field =>
    planner.addConstraint table.name field.name field.foreignKey)

/-- Creates tables. No constraint is added before all of them exist, so that they may refer to each
other. -/
def createTables (tables : List Table) : Plan :=
  .sequence (tables.map planner.createTable) ++ .sequence (tables.map planner.addConstraints)

/-- Adds a field to a table that exists: its column, and then its foreign key where that is a
constraint. -/
def addField (table : String) (field : Field) : Plan :=
  .ofResult (planner.column table field) fun column =>
    .execute [.addColumn table column] ++ planner.addConstraint table field.name field.foreignKey

/-- Removes a field from a table: the constraint for its foreign key goes before its column. -/
def removeField (table : String) (field : Field) : Plan :=
  planner.dropConstraint table field.name field.foreignKey ++
    .execute [.dropColumn table field.name]

/-- The default that a rebuilt column can declare: only a constant one. -/
def rebuiltDefault (field : Field) : Option RenderedDefault :=
  match field.default with
  | some (.constant value) => some ⟨.constant value, planner.dialect.constantLiteral value⟩
  | _ => none

/-- The constraints of a field that its rebuilt column lacks. A changed key flag is reported on its
own. -/
def rebuildLosses (modification : FieldModification) (field : Field) : List Constraint :=
  (match field.default with
    | some (.computed _) => [.default]
    | _ => []) ++
  (if field.primaryKey then
    if modification.primaryKey.isNone then [.primaryKey] else []
  else if field.nullable then [] else [.notNull]) ++
  (if field.foreignKey.isSome then [.foreignKey] else [])

/-- Replaces a column by one of a new type under the same name. -/
def rebuildColumn (table : Table) (m : FieldModification) (type : FieldType) : Plan :=
  let temporary := rebuildName table m.name
  let declared := table.field? m.name
  let losses := (declared.map (rebuildLosses m)).getD []
  ⟨[.noteRebuild table.name m.name temporary], none⟩ ++
    .execute [
      .addColumn table.name {
        name := temporary
        type := planner.dialect.columnType type
        default := declared.bind planner.rebuiltDefault },
      .copyCast table.name m.name temporary (planner.dialect.copyType type),
      .dropColumn table.name m.name,
      .renameColumn table.name temporary m.name] ++
    .sequence (losses.map fun constraint =>
      .warn (.rebuildDropped table.name m.name constraint))

/-- Changes whether a column may be null, or leaves that to the user. -/
def alterNullable (table column : String) (change : Change Bool) : Plan :=
  if planner.dialect.supportsAlterColumnConstraints then
    .execute [.alterNullable table column change.after]
  else .warn (.nullabilitySkipped table column change.after)

/-- Changes or drops the default of a column, or leaves that to the user. -/
def alterDefault (table column : String) (change : Change (Option DefaultValue)) : Plan :=
  if planner.dialect.supportsAlterColumnConstraints then
    match change.after with
    | some value =>
      .ofResult (planner.renderDefault table column value) fun default =>
        .execute [.setDefault table column default]
    | none => .execute [.dropDefault table column]
  else .warn (.defaultSkipped table column)

/-- Changes the foreign key of a column, or leaves that to the user. Both constraints have one name,
so the old one goes first. -/
def alterForeignKey (table column : String) (change : Change (Option ForeignKey)) : Plan :=
  if planner.dialect.usesSeparateForeignKeys then
    planner.dropConstraint table column change.before ++
      planner.addConstraint table column change.after
  else .warn (.foreignKeySkipped table column)

/-- The plan for a change, if there is one. -/
def onChange {α : Type} (plan : Change α → Plan) : Option (Change α) → Plan
  | some change => plan change
  | none => .nothing

/-- Alters nullability, default and foreign key of a column that stays in place. -/
def alterConstraints (table : String) (m : FieldModification) : Plan :=
  onChange (planner.alterNullable table m.name) m.nullable ++
    onChange (planner.alterDefault table m.name) m.default ++
    onChange (planner.alterForeignKey table m.name) m.foreignKey

/-- Changes a column. A rebuilt one has what it can have of the target field already. Key flags are
never changed in place. -/
def modifyField (table : Table) (m : FieldModification) : Plan :=
  let constraints := planner.alterConstraints table.name m
  (match m.type with
    | none => constraints
    | some change =>
      if planner.dialect.supportsAlterColumnType then
        .execute [.alterColumnType table.name m.name (planner.dialect.columnType change.after)] ++
          constraints
      else planner.rebuildColumn table m change.after) ++
    onChange (fun change => .warn (.primaryKeyChange table.name m.name change.after)) m.primaryKey

/-- Changes a table, whose declaration is looked up in the target. -/
def modifyTable (m : TableModification) : Plan :=
  match planner.target.table? m.table with
  | none => .fail (.missingTargetTable m.table)
  | some table =>
    .sequence (m.fieldsAdded.map (planner.addField m.table)) ++
      .sequence (m.fieldsRemoved.map (planner.removeField m.table)) ++
      .sequence (m.fieldsModified.map (planner.modifyField table))

/-- The SQL of the condition that guards an operation. -/
def predicate (table : String) (operation : Operation) : Condition → Except SchemaError String
  | .always allowed => .ok (planner.dialect.booleanLiteral allowed)
  | .expr e =>
    match planner.compiler (planner.scope table) e with
    | .ok sql => .ok sql
    | .error cause => .error (.policyCompile table operation cause)

/-- The policy that the changed rule of an operation calls for. -/
def createPolicy (table : String) (change : Operation × Change Condition) :
    Except SchemaError Statement := do
  let predicate ← planner.predicate table change.1 change.2.after
  return .createPolicy table change.1 predicate

/-- The statements for the changed rules of a table: all its policies are dropped, and those of the
changed operations are created. -/
def policyBlock (change : AccessChange) : Except SchemaError (List Statement) :=
  if planner.dialect.supportsPolicies then do
    let policies ← change.changes.mapM (planner.createPolicy change.table)
    return .enableRowSecurity change.table ::
      Operation.all.map (.dropPolicy change.table) ++ policies
  else .ok []

/-- The note on a block of policies, unless it is empty. -/
def notePolicies (table : String) (block : List Statement) : Plan :=
  if block.isEmpty then .nothing else ⟨[.notePolicies table block.length], none⟩

/-- The policies of all tables with changed rules. They are compiled before the first of them is
executed. -/
def policies (changes : List AccessChange) : Plan :=
  .sequence (changes.map fun change =>
    .ofResult (planner.policyBlock change) (notePolicies change.table)) ++
  .sequence (changes.map fun change => .ofResult (planner.policyBlock change) .execute)

/-- Creates all tables of the target with their policies. -/
def bootstrap : Plan :=
  planner.createTables planner.target.tables ++
    planner.policies (planner.target.tables.map .ofNewTable)

/-- Carries out a diff. -/
def carryOut (diff : Diff) : Plan :=
  .sequence (diff.removed.map planner.dropTable) ++
    planner.createTables diff.added ++
    .sequence (diff.modified.map planner.modifyTable) ++
    planner.policies diff.access

end Planner

namespace Synthesizer

variable (synthesizer : Synthesizer)

/-- Plans the creation of a snapshot in an empty database. -/
def bootstrapPlan (snapshot : Snapshot) (dialect : Dialect) : Plan :=
  ({ synthesizer with dialect, target := snapshot } : Planner).bootstrap

/-- Plans a diff that leads to a target. -/
def synthesisPlan (diff : Diff) (target : Snapshot) (dialect : Dialect) : Plan :=
  ({ synthesizer with dialect, target } : Planner).carryOut diff

/-- The migration that creates a snapshot in an empty database. -/
def bootstrap (snapshot : Snapshot) (dialect : Dialect) : Except SchemaError Migration :=
  (synthesizer.bootstrapPlan snapshot dialect).toMigration dialect
    (snapshot.tables.map .ofNewTable)

/-- The migration that carries out a diff leading to a target. -/
def synthesize (diff : Diff) (target : Snapshot) (dialect : Dialect) :
    Except SchemaError Migration :=
  (synthesizer.synthesisPlan diff target dialect).toMigration dialect diff.access

/-- The migration from one snapshot to another. -/
def migrate (before after : Snapshot) (dialect : Dialect) : Except SchemaError Migration :=
  synthesizer.synthesize (.between before after) after dialect

end Synthesizer

end SchemaDelta
