import SchemaDelta.Schema.Snapshot

/-!
# Diffs

What changes from one snapshot to another. Tables and fields are matched by name alone, so a new
name is an addition and a removal. Where a name occurs more than once, its last bearer is the one
that is compared with.
-/

namespace SchemaDelta

/-- The two values of something that changed. -/
structure Change (α : Type) where
  before : α
  after : α

namespace Change

variable {α : Type} [BEq α]

/-- The change between two values, if they differ. -/
def between (before after : α) : Option (Change α) :=
  if before == after then none else some ⟨before, after⟩

end Change

/-- The attributes in which two fields of one name differ. -/
structure FieldModification where
  name : String
  type : Option (Change FieldType)
  nullable : Option (Change Bool)
  primaryKey : Option (Change Bool)
  default : Option (Change (Option DefaultValue))
  foreignKey : Option (Change (Option ForeignKey))

namespace FieldModification

/-- Compares two fields attribute by attribute. -/
def between (before after : Field) : FieldModification where
  name := after.name
  type := Change.between before.type after.type
  nullable := Change.between before.nullable after.nullable
  primaryKey := Change.between before.primaryKey after.primaryKey
  default := Change.between before.default after.default
  foreignKey := Change.between before.foreignKey after.foreignKey

/-- Whether no attribute changes. -/
def isEmpty (m : FieldModification) : Bool :=
  m.type.isNone && m.nullable.isNone && m.primaryKey.isNone && m.default.isNone &&
    m.foreignKey.isNone

/-- The modification from one field to another, if they differ. -/
def between? (before after : Field) : Option FieldModification :=
  let modification := between before after
  if modification.isEmpty then none else some modification

end FieldModification

/-- The operations of a table whose conditions change. -/
structure AccessChange where
  table : String
  read : Option (Change Condition)
  create : Option (Change Condition)
  update : Option (Change Condition)
  delete : Option (Change Condition)

namespace AccessChange

/-- The change for an operation. -/
def get (change : AccessChange) : Operation → Option (Change Condition)
  | .read => change.read
  | .create => change.create
  | .update => change.update
  | .delete => change.delete

/-- The changed operations, in the order of their policies. -/
def changes (change : AccessChange) : List (Operation × Change Condition) :=
  Operation.all.filterMap fun operation => (change.get operation).map (operation, ·)

/-- Whether no condition changes. -/
def isEmpty (change : AccessChange) : Bool :=
  change.read.isNone && change.create.isNone && change.update.isNone && change.delete.isNone

/-- Records all operations of a new table, which had no rules before. -/
def ofNewTable (table : Table) : AccessChange where
  table := table.name
  read := some ⟨.permissive, table.access.read⟩
  create := some ⟨.permissive, table.access.create⟩
  update := some ⟨.permissive, table.access.update⟩
  delete := some ⟨.permissive, table.access.delete⟩

/-- Compares the rules of a table operation by operation. -/
def between (table : String) (before after : AccessControl) : AccessChange where
  table := table
  read := Change.between before.read after.read
  create := Change.between before.create after.create
  update := Change.between before.update after.update
  delete := Change.between before.delete after.delete

/-- The change from some rules of a table to others, if they differ. -/
def between? (table : String) (before after : AccessControl) : Option AccessChange :=
  let change := between table before after
  if change.isEmpty then none else some change

end AccessChange

/-- What changes in a table of both snapshots. -/
structure TableModification where
  table : String
  fieldsAdded : List Field
  fieldsRemoved : List Field
  fieldsModified : List FieldModification
  accessChanged : Bool

namespace TableModification

/-- Compares two tables of one name. -/
def between (before after : Table) : TableModification where
  table := after.name
  fieldsAdded := after.fields.filter fun field => (before.lastField? field.name).isNone
  fieldsRemoved := before.fields.filter fun field => (after.lastField? field.name).isNone
  fieldsModified := after.fields.filterMap fun field =>
    (before.lastField? field.name).bind (FieldModification.between? · field)
  accessChanged := (AccessChange.between? after.name before.access after.access).isSome

/-- Whether neither the fields of the table change nor its rules. -/
def isEmpty (m : TableModification) : Bool :=
  m.fieldsAdded.isEmpty && m.fieldsRemoved.isEmpty && m.fieldsModified.isEmpty &&
    !m.accessChanged

/-- The modification from one table to another, if they differ. -/
def between? (before after : Table) : Option TableModification :=
  let modification := between before after
  if modification.isEmpty then none else some modification

end TableModification

/-- What changes between two snapshots. Whatever the new snapshot has stands in its order, what it
lacks in the order of the old one. -/
structure Diff where
  added : List Table := []
  removed : List Table := []
  modified : List TableModification := []
  access : List AccessChange := []

namespace Diff

/-- Compares two snapshots. A new table is recorded with all its rules. -/
def between (before after : Snapshot) : Diff where
  added := after.tables.filter fun table => (before.lastTable? table.name).isNone
  removed := before.tables.filter fun table => (after.lastTable? table.name).isNone
  modified := after.tables.filterMap fun table =>
    (before.lastTable? table.name).bind (TableModification.between? · table)
  access := after.tables.filterMap fun table =>
    match before.lastTable? table.name with
    | none => some (AccessChange.ofNewTable table)
    | some old => AccessChange.between? table.name old.access table.access

variable (diff : Diff)

/-- Whether no table is new, removed or modified. -/
def tablesEmpty : Bool := diff.added.isEmpty && diff.removed.isEmpty && diff.modified.isEmpty

/-- Whether nothing changes, neither a table nor a rule. -/
def isEmpty : Bool := diff.tablesEmpty && diff.access.isEmpty

/-- The first access change of a table. -/
def accessOf? (table : String) : Option AccessChange := diff.access.find? (·.table == table)

end Diff

end SchemaDelta
