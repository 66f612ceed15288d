import SchemaDelta.Diff
import SchemaDelta.Schema.Codec

/-!
# Diffs as JSON

Unchanged attributes are left out. A change of something that may be missing has `null` for none.
-/

namespace SchemaDelta

namespace Change

/-- Writes both values of a change. -/
def toJson {α : Type} (valueToJson : α → Json) (change : Change α) : Json :=
  .object [("from", valueToJson change.before), ("to", valueToJson change.after)]

/-- Writes both values of a change, with `null` for none. -/
def optionToJson {α : Type} (valueToJson : α → Json) : Change (Option α) → Json :=
  toJson fun value => (value.map valueToJson).getD .null

end Change

namespace FieldModification

/-- Writes the attributes that change. -/
def toJson (m : FieldModification) : Json :=
  .object ([("name", .string m.name)] ++
    Json.optionalMember (Change.toJson FieldType.toJson) "type" m.type ++
    Json.optionalMember (Change.toJson Json.bool) "nullable" m.nullable ++
    Json.optionalMember (Change.toJson Json.bool) "primary_key" m.primaryKey ++
    Json.optionalMember (Change.optionToJson DefaultValue.toJson) "default" m.default ++
    Json.optionalMember (Change.optionToJson ForeignKey.toJson) "foreign_key" m.foreignKey)

end FieldModification

namespace AccessChange

/-- Writes the changes of the rules of a table under the names of the operations. -/
def toJson (change : AccessChange) : Json :=
  .object (("table", .string change.table) ::
    change.changes.map fun (operation, c) => (operation.name, c.toJson Condition.toJson))

/-- Writes a list of access changes. -/
def listToJson (changes : List AccessChange) : Json := .array (changes.map toJson)

end AccessChange

namespace TableModification

/-- Writes the modification of a table. Of its rules it says only whether they change. -/
def toJson (m : TableModification) : Json :=
  .object [("table", .string m.table), ("fields_added", .array (m.fieldsAdded.map Field.toJson)),
    ("fields_removed", .array (m.fieldsRemoved.map Field.toJson)),
    ("fields_modified", .array (m.fieldsModified.map FieldModification.toJson)),
    ("access_control_changed", .bool m.accessChanged)]

end TableModification

namespace Diff

/-- Writes a diff: the tables, and apart from them the access changes. -/
def toJson (diff : Diff) : Json :=
  .object [
    ("tables", .object [("added", .array (diff.added.map Table.toJson)),
      ("removed", .array (diff.removed.map Table.toJson)),
      ("modified", .array (diff.modified.map TableModification.toJson))]),
    ("access_control", AccessChange.listToJson diff.access)]

end Diff

end SchemaDelta
