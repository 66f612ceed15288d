import SchemaDelta.Schema.Access
import SchemaDelta.Schema.Field

/-!
# Snapshots

A snapshot is one version of a schema: its tables in order of declaration. Nothing keeps two tables
or fields from having the same name, so there are two kinds of lookup: `table?` and `field?` find
the first of a name, `lastTable?` and `lastField?` the last. They agree on snapshots without
violations.
-/

namespace SchemaDelta

/-- The declaration of a table. -/
structure Table where
  name : String
  fields : List Field := []
  access : AccessControl := {}

namespace Table

variable (table : Table)

/-- Appends a field. -/
def addField (field : Field) : Table := { table with fields := table.fields ++ [field] }

/-- The first field of a name. -/
def field? (name : String) : Option Field := table.fields.find? (·.name == name)

/-- The last field of a name. -/
def lastField? (name : String) : Option Field := table.fields.reverse.find? (·.name == name)

end Table

/-- A foreign key together with the field that declares it. -/
structure Relation where
  fromTable : String
  fromField : String
  toTable : String
  toField : String
deriving DecidableEq

/-- The relations that the foreign keys of a table declare. -/
def Table.relations (table : Table) : List Relation :=
  table.fields.filterMap fun field =>
    field.foreignKey.map fun key => ⟨table.name, field.name, key.table, key.field⟩

/-- One version of a schema. -/
structure Snapshot where
  tables : List Table := []

namespace Snapshot

variable (snapshot : Snapshot)

/-- Appends a table. -/
def addTable (table : Table) : Snapshot := { snapshot with tables := snapshot.tables ++ [table] }

/-- The first table of a name. -/
def table? (name : String) : Option Table := snapshot.tables.find? (·.name == name)

/-- The last table of a name. -/
def lastTable? (name : String) : Option Table :=
  snapshot.tables.reverse.find? (·.name == name)

/-- The names of the tables in order of declaration. -/
def tableNames : List String := snapshot.tables.map Table.name

/-- The relations of all tables, in the order of the fields that declare them. -/
def relations : List Relation := snapshot.tables.flatMap Table.relations

/-- The field that expressions mean by a table and a field name: the last of its name in the last
table of its name. -/
def column? (table field : String) : Option Field :=
  (snapshot.lastTable? table).bind (·.lastField? field)

/-- The first relation declared by a field of that name in a table of that name. -/
def relation? (table field : String) : Option Relation :=
  snapshot.relations.find? fun relation =>
    relation.fromTable == table && relation.fromField == field

/-- Removes every table of a name. -/
def dropTable (name : String) : Snapshot :=
  { snapshot with tables := snapshot.tables.filter (·.name != name) }

/-- Removes every field of a name from every table of a name. -/
def dropField (table field : String) : Snapshot where
  tables := snapshot.tables.map fun t =>
    if t.name = table then { t with fields := t.fields.filter (·.name != field) } else t

end Snapshot

end SchemaDelta
