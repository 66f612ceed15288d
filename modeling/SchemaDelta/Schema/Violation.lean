import SchemaDelta.Schema.Snapshot

/-!
# Violations

What a snapshot may not have: tables and fields without a name, a name twice, and foreign keys
that lead nowhere. `Snapshot.violations` lists them all in order.
-/

namespace SchemaDelta

/-- What is wrong in one place of a snapshot. -/
inductive Violation where
  | emptyTableName (position : Nat)
  | emptyFieldName (table : String)
  | duplicateTable (table : String)
  | duplicateField (table field : String)
  | unknownForeignKeyTarget (relation : Relation)
deriving DecidableEq

namespace Violation

/-- The message of a violation. -/
def message : Violation → String
  | emptyTableName position =>
    "Table at position " ++ toString position ++ " has an empty name"
  | emptyFieldName table => "Table '" ++ table ++ "' has a field with an empty name"
  | duplicateTable table => "Duplicate table '" ++ table ++ "'"
  | duplicateField table field => "Duplicate field '" ++ field ++ "' in table '" ++ table ++ "'"
  | unknownForeignKeyTarget r =>
    "Foreign key on '" ++ r.fromTable ++ "." ++ r.fromField ++ "' references unknown '" ++
      r.toTable ++ "." ++ r.toField ++ "'"

end Violation

namespace Table

/-- The violations of the remaining field names of a table, after the names already seen. -/
def fieldViolations (table : String) (seen : List String) : List Field → List Violation
  | [] => []
  | field :: fields =>
    if field.name = "" then .emptyFieldName table :: fieldViolations table seen fields
    else if field.name ∈ seen then
      .duplicateField table field.name :: fieldViolations table seen fields
    else fieldViolations table (field.name :: seen) fields

end Table

namespace Snapshot

/-- The violations of the names in the remaining tables, from a position on and after the table
names already seen. -/
def nameViolations (position : Nat) (seen : List String) : List Table → List Violation
  | [] => []
  | table :: tables =>
    let inside := Table.fieldViolations table.name [] table.fields
    if table.name = "" then
      .emptyTableName position :: (inside ++ nameViolations (position + 1) seen tables)
    else if table.name ∈ seen then
      .duplicateTable table.name :: (inside ++ nameViolations (position + 1) seen tables)
    else inside ++ nameViolations (position + 1) (table.name :: seen) tables

/-- Whether the field that a relation leads to is declared by the last table of its name. -/
def hasTarget (snapshot : Snapshot) (relation : Relation) : Bool :=
  (snapshot.lastTable? relation.toTable).any fun table =>
    (table.field? relation.toField).isSome

/-- The foreign keys that lead nowhere. -/
def danglingKeys (snapshot : Snapshot) : List Violation :=
  (snapshot.relations.filter fun relation => !snapshot.hasTarget relation).map
    .unknownForeignKeyTarget

/-- All violations: those of names table by table, then those of foreign keys. -/
def violations (snapshot : Snapshot) : List Violation :=
  nameViolations 0 [] snapshot.tables ++ snapshot.danglingKeys

end Snapshot

end SchemaDelta
