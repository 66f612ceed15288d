import SchemaDelta.Expr.Codec
import SchemaDelta.Schema.Snapshot

/-!
# Snapshots as JSON

Each part of a snapshot has a writer `toJson`, a reader `ofJson?` of values, and the `shape` under
which a document is read. What may be missing has a default; `null` stands for no foreign key and no
referential action, and for the default that is `NULL`.
-/

namespace SchemaDelta

namespace FieldType

/-- A type is written by its name. -/
def toJson (type : FieldType) : Json := .string type.name

/-- Reads a type name; only a known one may be written as a key. -/
def ofJson? : Json → Option FieldType
  | .string name => some (ofName name)
  | value => (value.name? false).bind ofKnownName?

end FieldType

namespace ReferentialAction

/-- An action is written by its name. -/
def toJson (action : ReferentialAction) : Json := .string action.name

/-- Reads an action by its name, which may also be written as a key. -/
def ofJson? (value : Json) : Option ReferentialAction := (value.name? false).bind ofName?

end ReferentialAction

/-- Reads an optional part, for which `null` stands when there is none. -/
def Json.optional? {α : Type} (ofJson? : Json → Option α) : Json → Option (Option α)
  | .null => some none
  | value => (ofJson? value).map some

/-- Reads every item of an array. -/
def Json.listOf? {α : Type} (ofJson? : Json → Option α) (value : Json) : Option (List α) := do
  (← value.array?).mapM ofJson?

/-- Reads a field of a record, or takes what stands for a missing one. -/
def Json.fieldOr? {α : Type} (missing : Option α) (ofJson? : Json → Option α)
    (fields : List (String × Json)) (name : String) : Option α :=
  match fields.lookup name with
  | some value => ofJson? value
  | none => missing

/-- The member of an object that is left out when there is no value. -/
def Json.optionalMember {α : Type} (toJson : α → Json) (name : String) :
    Option α → List (String × Json)
  | some value => [(name, toJson value)]
  | none => []

namespace ForeignKey

/-- A foreign key is a record of plain values. -/
def shape : Shape :=
  .record [("table", .value), ("field", .value), ("on_delete", .value), ("on_update", .value)]

/-- Writes a foreign key, without the actions it does not have. -/
def toJson (key : ForeignKey) : Json :=
  .object ([("table", .string key.table), ("field", .string key.field)] ++
    Json.optionalMember ReferentialAction.toJson "on_delete" key.onDelete ++
    Json.optionalMember ReferentialAction.toJson "on_update" key.onUpdate)

/-- Reads a foreign key. It must lead somewhere, but an action may be missing or `null`. -/
def ofJson? (value : Json) : Option ForeignKey := do
  let fields ← value.record? ["table", "field", "on_delete", "on_update"]
  let table ← Json.fieldOr? none Json.string? fields "table"
  let field ← Json.fieldOr? none Json.string? fields "field"
  let action := Json.fieldOr? (some none) (Json.optional? ReferentialAction.ofJson?) fields
  let onDelete ← action "on_delete"
  let onUpdate ← action "on_update"
  return { table, field, onDelete, onUpdate }

/-- Reads the document of a foreign key. -/
def read? (text : String) : Option ForeignKey := (Json.read? shape text).bind ofJson?

end ForeignKey

namespace DefaultValue

/-- A default is written as what it is, a constant or an expression; nothing else tells them
apart. -/
def toJson : DefaultValue → Json
  | constant value => value.toJson
  | computed value => value.toJson

/-- Reads a default: whatever is no constant has to be an expression. -/
def ofJson? (value : Json) : Option DefaultValue :=
  match Constant.ofJson? value with
  | some c => some (constant c)
  | none => (Expr.ofJson? value).map computed

/-- Reads the document of a default. -/
def read? (text : String) : Option DefaultValue := (Json.read? .value text).bind ofJson?

end DefaultValue

namespace Field

/-- A field is a record, and so is its foreign key. -/
def shape : Shape :=
  .record [("name", .value), ("type", .value), ("nullable", .value), ("primary_key", .value),
    ("default", .value), ("foreign_key", ForeignKey.shape)]

/-- Writes a field, without the default and the foreign key that it does not have. -/
def toJson (field : Field) : Json :=
  .object ([("name", .string field.name), ("type", field.type.toJson),
      ("nullable", .bool field.nullable), ("primary_key", .bool field.primaryKey)] ++
    Json.optionalMember DefaultValue.toJson "default" field.default ++
    Json.optionalMember ForeignKey.toJson "foreign_key" field.foreignKey)

/-- Reads a field. A default that is `null` is the default `NULL`, but a foreign key that is `null`
is none. -/
def ofJson? (value : Json) : Option Field := do
  let fields ←
    value.record? ["name", "type", "nullable", "primary_key", "default", "foreign_key"]
  let name ← Json.fieldOr? none Json.string? fields "name"
  let type ← Json.fieldOr? none FieldType.ofJson? fields "type"
  let nullable ← Json.fieldOr? (some true) Json.bool? fields "nullable"
  let primaryKey ← Json.fieldOr? (some false) Json.bool? fields "primary_key"
  let default ←
    Json.fieldOr? (some none) (fun v => (DefaultValue.ofJson? v).map some) fields "default"
  let foreignKey ←
    Json.fieldOr? (some none) (Json.optional? ForeignKey.ofJson?) fields "foreign_key"
  return { name, type, nullable, primaryKey, default, foreignKey }

/-- Reads the document of a field. -/
def read? (text : String) : Option Field := (Json.read? shape text).bind ofJson?

end Field

namespace Condition

/-- A condition is written as a truth value or as an expression. -/
def toJson : Condition → Json
  | always allowed => .bool allowed
  | expr value => value.toJson

/-- Reads a condition. A truth value is a rule of its own and never a literal. -/
def ofJson? : Json → Option Condition
  | .bool allowed => some (always allowed)
  | value => (Expr.ofJson? value).map expr

/-- Reads the document of a condition. -/
def read? (text : String) : Option Condition := (Json.read? .value text).bind ofJson?

end Condition

namespace AccessControl

/-- The rules of a table are a record with a value for each operation. -/
def shape : Shape := .record (Operation.all.map fun operation => (operation.name, .value))

/-- Writes the rules of all operations, also those that allow everything. -/
def toJson (access : AccessControl) : Json :=
  .object (Operation.all.map fun operation => (operation.name, (access.get operation).toJson))

/-- Reads the rules of a table. An operation without one is allowed. -/
def ofJson? (value : Json) : Option AccessControl := do
  let fields ← value.record? (Operation.all.map Operation.name)
  let rule (operation : Operation) :=
    Json.fieldOr? (some .permissive) Condition.ofJson? fields operation.name
  return {
    read := ← rule .read
    create := ← rule .create
    update := ← rule .update
    delete := ← rule .delete }

end AccessControl

namespace Table

/-- A table is a record with those of its fields and its rules in it. -/
def shape : Shape :=
  .record [("name", .value), ("fields", .list Field.shape),
    ("access_control", AccessControl.shape)]

/-- Writes a table with its fields in order and all its rules. -/
def toJson (table : Table) : Json :=
  .object [("name", .string table.name), ("fields", .array (table.fields.map Field.toJson)),
    ("access_control", table.access.toJson)]

/-- Reads a table. Its rules may be missing, the list of its fields may not. -/
def ofJson? (value : Json) : Option Table := do
  let fields ← value.record? ["name", "fields", "access_control"]
  let name ← Json.fieldOr? none Json.string? fields "name"
  let declared ← Json.fieldOr? none (Json.listOf? Field.ofJson?) fields "fields"
  let access ← Json.fieldOr? (some {}) AccessControl.ofJson? fields "access_control"
  return { name, fields := declared, access }

end Table

namespace Relation

/-- Writes where a relation comes from and where it leads. -/
def toJson (relation : Relation) : Json :=
  .object [("from_table", .string relation.fromTable), ("from_field", .string relation.fromField),
    ("to_table", .string relation.toTable), ("to_field", .string relation.toField)]

end Relation

namespace Snapshot

/-- A snapshot is a record with those of its tables in it. -/
def shape : Shape := .record [("tables", .list Table.shape)]

/-- Writes a snapshot with its tables in order. -/
def toJson (snapshot : Snapshot) : Json :=
  .object [("tables", .array (snapshot.tables.map Table.toJson))]

/-- Reads a snapshot, whether or not there are violations in it. -/
def ofJson? (value : Json) : Option Snapshot := do
  let fields ← value.record? ["tables"]
  let tables ← Json.fieldOr? none (Json.listOf? Table.ofJson?) fields "tables"
  return { tables }

/-- Reads the document of a snapshot. -/
def read? (text : String) : Option Snapshot := (Json.read? shape text).bind ofJson?

end Snapshot

end SchemaDelta
