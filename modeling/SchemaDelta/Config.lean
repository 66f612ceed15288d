import SchemaDelta.Json.Reader
import SchemaDelta.Json.Record

/-!
# Configuration

What a migration depends on beside the schemas: SQL for the variables in expressions, and whether a
removed table takes along what depends on it.
-/

namespace SchemaDelta

/-- The bindings of variables unless a configuration says otherwise. -/
def Config.standardBindings : List (String × String) :=
  [("auth.role", "current_setting('request.jwt.claim.role', true)"),
    ("auth.uid", "current_setting('request.jwt.claim.sub', true)")]

/-- What migrations depend on beside the snapshots. -/
structure Config where
  bindings : List (String × String) := Config.standardBindings
  dropCascade : Bool := true

namespace Config

/-- Binds a variable, also one that was bound before. -/
def bind (config : Config) (name sql : String) : Config :=
  { config with bindings := KeyedList.insert name sql config.bindings }

/-- Writes a configuration with all its bindings. -/
def toJson (config : Config) : Json :=
  .object [("drop_cascade", .bool config.dropCascade),
    ("variables", .object (config.bindings.map fun (name, sql) => (name, .string sql)))]

/-- Reads bindings; of several for one variable the last one counts. -/
def bindingsOfJson? (value : Json) : Option (List (String × String)) := do
  let bindings ← (← value.object?).mapM fun (name, sql) => return (name, ← sql.string?)
  return KeyedList.ofList bindings

/-- Reads a configuration; what it does not mention is as usual. -/
def ofJson? (value : Json) : Option Config := do
  let fields ← value.record? ["variables", "drop_cascade"]
  let bindings ← match fields.lookup "variables" with
    | some value => bindingsOfJson? value
    | none => some standardBindings
  let dropCascade ← match fields.lookup "drop_cascade" with
    | some flag => flag.bool?
    | none => some true
  return { bindings, dropCascade }

/-- A configuration is a record of plain values. -/
def shape : Shape := .record [("variables", .value), ("drop_cascade", .value)]

/-- Reads the document of a configuration. -/
def read? (text : String) : Option Config := (Json.read? shape text).bind ofJson?

end Config

end SchemaDelta
