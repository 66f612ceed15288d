import SchemaDelta.Diff.Codec
import SchemaDelta.Migration

/-!
# Migrations as JSON
-/

namespace SchemaDelta

namespace Warning

/-- Writes a warning, its kind first. -/
def toJson (warning : Warning) : Json :=
  let entry (kind table field : String) (more : List (String × Json)) : Json :=
    .object ([("kind", .string kind), ("table", .string table), ("field", .string field)] ++ more)
  match warning with
  | nullabilitySkipped table field nullable =>
    entry "nullability_change_skipped" table field [("nullable", .bool nullable)]
  | defaultSkipped table field => entry "default_change_skipped" table field []
  | foreignKeySkipped table field => entry "foreign_key_change_skipped" table field []
  | rebuildDropped table field constraint =>
    entry "rebuild_dropped_constraint" table field [("constraint", .string constraint.name)]
  | primaryKeyChange table field primaryKey =>
    entry "primary_key_change" table field [("primary_key", .bool primaryKey)]

end Warning

namespace Migration

/-- Writes a migration with its statements as SQL. -/
def toJson (migration : Migration) : Json :=
  .object [("dialect", .string migration.dialect.name),
    ("statements", .array (migration.statements.map fun s => .string s.render)),
    ("access_control", AccessChange.listToJson migration.access),
    ("warnings", .array (migration.warnings.map Warning.toJson))]

end Migration

end SchemaDelta
