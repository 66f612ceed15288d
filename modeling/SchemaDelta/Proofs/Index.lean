import SchemaDelta.Proofs.Paths

/-!
# The index of a schema

A snapshot is looked at in three ways: as lists of tables and fields, where the first bearer of a
name is found; as a map of maps from names to fields, where the last one is; and as one list of the
relations of all tables. Main statement: for a snapshot without violations they agree. Where a name
occurs twice they do not.
-/

namespace SchemaDelta

/-- The fields of all tables by their names, and the relations between them. -/
structure SchemaIndex where
  tables : List (String × List (String × Field))
  relations : List Relation

/-- The fields of a table by their names. -/
def Table.fieldMap (table : Table) : List (String × Field) :=
  KeyedList.ofList (table.fields.map fun field => (field.name, field))

/-- The index of a snapshot. -/
def Snapshot.index (snapshot : Snapshot) : SchemaIndex where
  tables := KeyedList.ofList (snapshot.tables.map fun table => (table.name, table.fieldMap))
  relations := snapshot.relations

namespace SchemaIndex

variable (index : SchemaIndex)

/-- The field of a name in the map of a table. -/
def field? (table field : String) : Option Field :=
  (KeyedList.get? index.tables table).bind (KeyedList.get? · field)

/-- The first relation of a field. -/
def relation? (table field : String) : Option Relation :=
  index.relations.find? fun relation =>
    relation.fromTable == table && relation.fromField == field

end SchemaIndex

/-- A map from names to items finds the last item of a name. -/
theorem KeyedList.get?_ofList_map {α β : Type} (items : List α) (name : α → String) (value : α → β)
    (key : String) :
    get? (ofList (items.map fun item => (name item, value item))) key =
      (items.reverse.find? (name · == key)).map value := by
  rw [get?_ofList, ← List.map_reverse, List.find?_map, Option.map_map]
  rfl

theorem Table.get?_fieldMap (table : Table) (name : String) :
    KeyedList.get? table.fieldMap name = table.lastField? name := by
  rw [fieldMap, KeyedList.get?_ofList_map table.fields Field.name fun field => field]
  exact Option.map_id'

namespace Snapshot

variable {snapshot : Snapshot}

/-- Expressions mean the fields of the index, whether or not there are violations. -/
theorem field?_index (snapshot : Snapshot) (table field : String) :
    snapshot.index.field? table field = snapshot.column? table field := by
  rw [SchemaIndex.field?, index, KeyedList.get?_ofList_map snapshot.tables Table.name,
    Option.bind_map, column?, lastTable?]
  exact Option.bind_congr fun declaration _ => declaration.get?_fieldMap field

theorem Valid.field?_index (valid : snapshot.Valid) (table field : String) :
    snapshot.index.field? table field = snapshot.field? table field :=
  (snapshot.field?_index table field).trans (valid.column?_eq table field)

theorem Valid.relation?_eq_some_iff (valid : snapshot.Valid) {table field : String}
    {relation : Relation} :
    snapshot.relation? table field = some relation ↔
      ∃ declared key, snapshot.field? table field = some declared ∧
        declared.foreignKey = some key ∧ relation = ⟨table, field, key.table, key.field⟩ := by
  rw [valid.relation?_eq, Option.map_eq_some_iff]
  constructor
  · rintro ⟨key, declares, rfl⟩
    obtain ⟨declared, found, keyed⟩ := Option.bind_eq_some_iff.mp declares
    exact ⟨declared, key, found, keyed, rfl⟩
  · rintro ⟨declared, key, found, keyed, rfl⟩
    exact ⟨key, (foreignKey?_of_field? found).trans keyed, rfl⟩

/-- A relation leads to a field. -/
theorem Valid.isSome_target (valid : snapshot.Valid) {table field : String} {relation : Relation}
    (found : snapshot.relation? table field = some relation) :
    (snapshot.field? relation.toTable relation.toField).isSome := by
  obtain ⟨declared, key, declares, keyed, rfl⟩ := valid.relation?_eq_some_iff.mp found
  obtain ⟨owner, member, -, fieldMember, -⟩ := valid.exists_of_field? declares
  obtain ⟨target, foundTarget, present⟩ := valid.target_declared member fieldMember keyed
  rwa [field?_of_table? foundTarget]

end Snapshot

/-- In a snapshot without violations the map finds the field that the lists have, the list of
relations has what the field declares as its foreign key, and the map finds the field that this
leads to. Expressions are compiled with the fields and relations of the index. -/
theorem views_of_schema_agree {snapshot : Snapshot} (accepted : snapshot.validate = .ok ())
    (table field : String) :
    snapshot.index.field? table field = (snapshot.table? table).bind (·.field? field) ∧
    (∀ relation, snapshot.index.relation? table field = some relation ↔
      ∃ declared key, (snapshot.table? table).bind (·.field? field) = some declared ∧
        declared.foreignKey = some key ∧ relation = ⟨table, field, key.table, key.field⟩) ∧
    (∀ relation, snapshot.index.relation? table field = some relation →
      (snapshot.index.field? relation.toTable relation.toField).isSome) ∧
    snapshot.column? table field = snapshot.index.field? table field ∧
    snapshot.relation? table field = snapshot.index.relation? table field := by
  have valid := Snapshot.Valid.ofValidate accepted
  refine ⟨valid.field?_index table field, fun _ => valid.relation?_eq_some_iff,
    fun relation found => ?_, (snapshot.field?_index table field).symm, rfl⟩
  rw [valid.field?_index]
  exact valid.isSome_target found

/-- Notes that answer each other and have users as authors, who come from a note. -/
def answeringNotes : Snapshot where
  tables := [
    { name := "notes"
      fields := [
        { name := "parent"
          type := .uuid
          foreignKey := some { table := "notes", field := "id", onDelete := some .cascade } },
        { name := "id", type := .uuid, nullable := false, primaryKey := true },
        { name := "author"
          type := .uuid
          foreignKey := some { table := "users", field := "id" } }] },
    { name := "users"
      fields := [
        { name := "id", type := .uuid, nullable := false, primaryKey := true },
        { name := "parent"
          type := .uuid
          foreignKey := some { table := "notes", field := "id" } }] }]

/-- Users have a field of the same name as the parent of a note, with a relation of its own. -/
theorem views_of_schema_agree_notes :
    answeringNotes.validate = .ok () ∧
    answeringNotes.index.relation? "notes" "parent" =
      some ⟨"notes", "parent", "notes", "id"⟩ ∧
    (answeringNotes.index.field? "notes" "id").isSome ∧
    answeringNotes.index.field? "users" "parent" =
      (answeringNotes.table? "users").bind (·.field? "parent") := by
  have accepted : answeringNotes.validate = .ok () := by decide
  obtain ⟨-, related, anchored, -⟩ := views_of_schema_agree accepted "notes" "parent"
  obtain ⟨users, -⟩ := views_of_schema_agree accepted "users" "parent"
  have found := (related ⟨"notes", "parent", "notes", "id"⟩).mpr ⟨_, _, rfl, rfl, rfl⟩
  exact ⟨accepted, found, anchored _ found, users⟩

/-- Of two tables with one name the map has the last one, the lists have the first, and the
relations are those of both. -/
example :
    let snapshot : Snapshot := {
      tables := [
        { name := "notes"
          fields := [
            { name := "id"
              type := .uuid
              foreignKey := some { table := "users", field := "id" } }] },
        { name := "notes", fields := [{ name := "id", type := .text }] }] }
    (snapshot.index.field? "notes" "id").map Field.type = some .text ∧
      ((snapshot.table? "notes").bind (·.field? "id")).map Field.type = some .uuid ∧
      snapshot.index.relation? "notes" "id" = some ⟨"notes", "id", "users", "id"⟩ := by
  decide

end SchemaDelta
