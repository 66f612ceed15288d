import SchemaDelta.Migration.Planner
import SchemaDelta.Schema.Codec

/-!
# Drafts

A draft is a snapshot under construction, beside the version it started from and a configuration.
Tables and fields are appended; later edits go to the last field of the last table.
-/

namespace SchemaDelta

/-- A snapshot under construction. -/
structure Draft where
  current : Snapshot := {}
  base : Snapshot := {}
  config : Config := {}

namespace Draft

/-- Why an edit is not possible. -/
inductive Obstacle where
  | noTable
  | noField
  | noForeignKey
  | unreadable
deriving DecidableEq

variable (draft : Draft)

/-- Appends an empty table. -/
def addTable (name : String) : Draft × Table :=
  let table : Table := { name }
  ({ draft with current := draft.current.addTable table }, table)

/-- Edits the last table. -/
def editTable {α : Type} (edit : Table → Except Obstacle (Table × α)) :
    Except Obstacle (Draft × α) :=
  match draft.current.tables.reverse with
  | [] => .error .noTable
  | table :: others => do
    let (table, result) ← edit table
    return ({ draft with current := { tables := (table :: others).reverse } }, result)

/-- Appends a nullable field to the last table. -/
def addField (name : String) (type : FieldType) : Except Obstacle (Draft × Field) :=
  let field : Field := { name, type }
  draft.editTable fun table => .ok (table.addField field, field)

/-- Edits the last field of the last table. -/
def editField (edit : Field → Except Obstacle Field) : Except Obstacle (Draft × Field) :=
  draft.editTable fun table =>
    match table.fields.reverse with
    | [] => .error .noField
    | field :: others => do
      let field ← edit field
      return ({ table with fields := (field :: others).reverse }, field)

/-- Gives the last field the default that a document holds. -/
def setDefault (document : String) : Except Obstacle (Draft × Field) :=
  draft.editField fun field =>
    match DefaultValue.read? document with
    | some value => .ok (field.withDefault value)
    | none => .error .unreadable

/-- Edits the foreign key of the last field, given the name of an action. -/
def editAction (action : String) (edit : ForeignKey → ReferentialAction → ForeignKey) :
    Except Obstacle (Draft × Field) :=
  draft.editField fun field =>
    match field.foreignKey, ReferentialAction.ofName? action with
    | none, _ => .error .noForeignKey
    | some _, none => .error .unreadable
    | some key, some action => .ok (field.references (edit key action))

/-- Sets what happens when the row that the last field refers to is deleted. -/
def onDelete (action : String) : Except Obstacle (Draft × Field) :=
  draft.editAction action fun key action => { key with onDelete := some action }

/-- Sets what happens when the row that the last field refers to is updated. -/
def onUpdate (action : String) : Except Obstacle (Draft × Field) :=
  draft.editAction action fun key action => { key with onUpdate := some action }

/-- Guards an operation on the last table by the condition that a document holds. -/
def setRule (rule document : String) : Except Obstacle (Draft × Operation × Condition) :=
  match Operation.ofName? rule, Condition.read? document with
  | some operation, some condition =>
    draft.editTable fun table =>
      .ok ({ table with access := table.access.set operation condition }, operation, condition)
  | _, _ => .error .unreadable

/-- Removes every table of a name. -/
def dropTable (name : String) : Draft := { draft with current := draft.current.dropTable name }

/-- Removes every field of a name from every table of a name. -/
def dropField (table name : String) : Draft :=
  { draft with current := draft.current.dropField table name }

/-- Binds a variable in the configuration. -/
def bind (name sql : String) : Draft := { draft with config := draft.config.bind name sql }

/-- Makes the current snapshot the one to start from. -/
def commit : Draft := { draft with base := draft.current }

/-- Returns to the snapshot that the draft started from. -/
def rollback : Draft := { draft with current := draft.base }

/-- What changed since the start. -/
def diff : Diff := .between draft.base draft.current

/-- The migration that creates the current snapshot. -/
def bootstrap (dialect : Dialect) : Except SchemaError Migration :=
  ({ config := draft.config } : Synthesizer).bootstrap draft.current dialect

/-- The migration that carries out what changed since the start. -/
def migrate (dialect : Dialect) : Except SchemaError Migration :=
  ({ config := draft.config } : Synthesizer).migrate draft.base draft.current dialect

end Draft

end SchemaDelta
