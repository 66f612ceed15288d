import SchemaDelta.Migration.Planner
import SchemaDelta.Schema.Codec

/-!
# Histories

A history goes from version to version of a schema, starting with the empty one. Every version gets
the migration that leads to it and, if there is one, the migration that leads back.
-/

namespace SchemaDelta

namespace History

/-- Why a version cannot follow. -/
inductive Obstacle where
  | unreadable
  | error (error : SchemaError)

/-- The migrations between a version and the one before it. -/
structure Transition where
  forward : Migration
  back : Option Migration

/-- The migrations between two versions. -/
def transition (synthesizer : Synthesizer) (dialect : Dialect) (before after : Snapshot) :
    Except SchemaError Transition := do
  let forward ← synthesizer.migrate before after dialect
  return { forward, back := (synthesizer.migrate after before dialect).toOption }

/-- Reads a version, and goes to it from the current one. -/
def advance (synthesizer : Synthesizer) (dialect : Dialect) (current : Snapshot)
    (document : String) : Except Obstacle (Snapshot × Transition) :=
  match Snapshot.read? document with
  | none => .error .unreadable
  | some next =>
    match transition synthesizer dialect current next with
    | .error error => .error (.error error)
    | .ok transition => .ok (next, transition)

/-- Goes through versions one after the other. One that cannot follow is left out. -/
def run (synthesizer : Synthesizer) (dialect : Dialect) :
    (current : Snapshot) → (documents : List String) → List (Except Obstacle Transition)
  | _, [] => []
  | current, document :: documents =>
    match advance synthesizer dialect current document with
    | .error obstacle => .error obstacle :: run synthesizer dialect current documents
    | .ok (next, transition) => .ok transition :: run synthesizer dialect next documents

end History

end SchemaDelta
