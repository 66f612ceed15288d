import SchemaDelta.Error
import SchemaDelta.Proofs.Lookup

/-!
# Snapshots without violations

`Snapshot.validate` accepts exactly the snapshots that satisfy `Snapshot.Valid`: every name is there
and occurs once, and every foreign key leads to a declared field. In such a snapshot the lookups
that expressions, plans and diffs use agree with each other.
-/

namespace SchemaDelta

namespace Snapshot

/-- Names are not empty and differ, and foreign keys lead to declared fields. -/
structure Valid (snapshot : Snapshot) : Prop where
  tableNamed : ∀ table ∈ snapshot.tables, table.name ≠ ""
  tablesDistinct : snapshot.tableNames.Nodup
  fieldNamed : ∀ table ∈ snapshot.tables, ∀ field ∈ table.fields, field.name ≠ ""
  fieldsDistinct : ∀ table ∈ snapshot.tables, (table.fields.map Field.name).Nodup
  anchored : ∀ relation ∈ snapshot.relations, ∃ table ∈ snapshot.tables,
    table.name = relation.toTable ∧ relation.toField ∈ table.fields.map Field.name

end Snapshot

theorem Table.fieldViolations_eq_nil_iff (table : String) (fields : List Field)
    (seen : List String) :
    Table.fieldViolations table seen fields = [] ↔
      (∀ field ∈ fields, field.name ≠ "" ∧ field.name ∉ seen) ∧ (fields.map Field.name).Nodup := by
  induction fields generalizing seen with
  | nil => simp [Table.fieldViolations]
  | cons field fields ih =>
    by_cases empty : field.name = ""
    · simp [Table.fieldViolations, empty]
    by_cases known : field.name ∈ seen
    · simp [Table.fieldViolations, empty, known]
    -- a fresh name is seen from here on, so the names after it have to differ from it
    simp only [Table.fieldViolations, empty, known, if_false, ih, List.map_cons, List.nodup_cons,
      List.forall_mem_cons]
    simp only [List.mem_cons, not_or, List.mem_map, not_exists, not_and]
    constructor
    · rintro ⟨fresh, distinct⟩
      exact ⟨⟨⟨empty, not_false⟩,
          fun other member => ⟨(fresh other member).1, (fresh other member).2.2⟩⟩,
        fun other member => (fresh other member).2.1, distinct⟩
    · rintro ⟨⟨-, fresh⟩, different, distinct⟩
      exact ⟨fun other member =>
        ⟨(fresh other member).1, different other member, (fresh other member).2⟩, distinct⟩

namespace Snapshot

theorem nameViolations_eq_nil_iff (tables : List Table) (position : Nat) (seen : List String) :
    nameViolations position seen tables = [] ↔
      (∀ table ∈ tables, (table.name ≠ "" ∧ table.name ∉ seen) ∧
        Table.fieldViolations table.name [] table.fields = []) ∧
      (tables.map Table.name).Nodup := by
  induction tables generalizing position seen with
  | nil => simp [nameViolations]
  | cons table tables ih =>
    by_cases empty : table.name = ""
    · simp [nameViolations, empty]
    by_cases known : table.name ∈ seen
    · simp [nameViolations, empty, known]
    simp only [nameViolations, empty, known, if_false, List.append_eq_nil_iff, ih, List.map_cons,
      List.nodup_cons, List.forall_mem_cons]
    simp only [List.mem_cons, not_or, List.mem_map, not_exists, not_and]
    constructor
    · rintro ⟨inside, fresh, distinct⟩
      exact ⟨⟨⟨⟨empty, not_false⟩, inside⟩, fun other member =>
          ⟨⟨(fresh other member).1.1, (fresh other member).1.2.2⟩, (fresh other member).2⟩⟩,
        fun other member => (fresh other member).1.2.1, distinct⟩
    · rintro ⟨⟨⟨-, inside⟩, fresh⟩, different, distinct⟩
      exact ⟨inside, fun other member =>
        ⟨⟨(fresh other member).1.1, different other member, (fresh other member).1.2⟩,
          (fresh other member).2⟩, distinct⟩

theorem hasTarget_iff {snapshot : Snapshot} (distinct : snapshot.tableNames.Nodup)
    (relation : Relation) :
    snapshot.hasTarget relation = true ↔ ∃ table ∈ snapshot.tables,
      table.name = relation.toTable ∧ relation.toField ∈ table.fields.map Field.name := by
  rw [hasTarget, lastTable?_eq_table? distinct, Option.any_eq_true]
  constructor
  · rintro ⟨table, found, declared⟩
    exact ⟨table, mem_of_table? found, name_of_table? found, Table.field?_isSome_iff.mp declared⟩
  · rintro ⟨table, member, named, declared⟩
    exact ⟨table, (table?_eq_some_iff distinct).mpr ⟨member, named⟩,
      Table.field?_isSome_iff.mpr declared⟩

theorem danglingKeys_eq_nil_iff (snapshot : Snapshot) :
    snapshot.danglingKeys = [] ↔
      ∀ relation ∈ snapshot.relations, snapshot.hasTarget relation = true := by
  simp [danglingKeys, List.filter_eq_nil_iff]

theorem violations_eq_nil_iff (snapshot : Snapshot) :
    snapshot.violations = [] ↔ snapshot.Valid := by
  rw [violations, List.append_eq_nil_iff, nameViolations_eq_nil_iff, danglingKeys_eq_nil_iff]
  simp only [Table.fieldViolations_eq_nil_iff, List.not_mem_nil, not_false_eq_true, and_true]
  constructor
  · rintro ⟨⟨tables, distinct⟩, targets⟩
    exact {
      tableNamed := fun table member => (tables table member).1
      tablesDistinct := distinct
      fieldNamed := fun table member => (tables table member).2.1
      fieldsDistinct := fun table member => (tables table member).2.2
      anchored := fun relation member =>
        (hasTarget_iff distinct relation).mp (targets relation member) }
  · intro valid
    exact ⟨⟨fun table member => ⟨valid.tableNamed table member, valid.fieldNamed table member,
        valid.fieldsDistinct table member⟩, valid.tablesDistinct⟩,
      fun relation member =>
        (hasTarget_iff valid.tablesDistinct relation).mpr (valid.anchored relation member)⟩

theorem validate_eq_ok_iff (snapshot : Snapshot) :
    snapshot.validate = .ok () ↔ snapshot.Valid := by
  rw [← violations_eq_nil_iff, validate]
  match snapshot.violations with
  | [] => simp
  | [v] => simp
  | v :: w :: vs => simp

namespace Valid

variable {snapshot : Snapshot} {name : String} {table : Table} {field : Field} {key : ForeignKey}

theorem ofValidate (accepted : snapshot.validate = .ok ()) : snapshot.Valid :=
  (validate_eq_ok_iff snapshot).mp accepted

theorem table?_eq_some_iff (valid : snapshot.Valid) :
    snapshot.table? name = some table ↔ table ∈ snapshot.tables ∧ table.name = name :=
  Snapshot.table?_eq_some_iff valid.tablesDistinct

theorem lastTable?_eq (valid : snapshot.Valid) (name : String) :
    snapshot.lastTable? name = snapshot.table? name :=
  lastTable?_eq_table? valid.tablesDistinct

theorem lastTable?_of_mem (valid : snapshot.Valid) (member : table ∈ snapshot.tables)
    (named : table.name = name) : snapshot.lastTable? name = some table :=
  (valid.lastTable?_eq name).trans (valid.table?_eq_some_iff.mpr ⟨member, named⟩)

theorem field?_eq_some_iff (valid : snapshot.Valid) (member : table ∈ snapshot.tables) :
    table.field? name = some field ↔ field ∈ table.fields ∧ field.name = name :=
  Table.field?_eq_some_iff (valid.fieldsDistinct table member)

theorem field?_of_mem (valid : snapshot.Valid) (tableMember : table ∈ snapshot.tables)
    (fieldMember : field ∈ table.fields) :
    snapshot.field? table.name field.name = some field := by
  rw [Snapshot.field?_of_table? (valid.table?_eq_some_iff.mpr ⟨tableMember, rfl⟩)]
  exact (valid.field?_eq_some_iff tableMember).mpr ⟨fieldMember, rfl⟩

/-- Expressions mean the same field by a name as the other lookups. -/
theorem column?_eq (valid : snapshot.Valid) (owner name : String) :
    snapshot.column? owner name = snapshot.field? owner name := by
  rw [column?, Snapshot.field?, valid.lastTable?_eq]
  cases found : snapshot.table? owner with
  | none => rfl
  | some table =>
    have member := mem_of_table? found
    exact Table.lastField?_eq_field? (valid.fieldsDistinct table member)

/-- A field that is found belongs to a table that is found. -/
theorem exists_of_field? (valid : snapshot.Valid) {owner : String}
    (found : snapshot.field? owner name = some field) :
    ∃ table ∈ snapshot.tables, table.name = owner ∧ field ∈ table.fields ∧ field.name = name := by
  obtain ⟨table, foundTable, found⟩ := Option.bind_eq_some_iff.mp found
  obtain ⟨member, named⟩ := valid.table?_eq_some_iff.mp foundTable
  exact ⟨table, member, named, (valid.field?_eq_some_iff member).mp found⟩

/-- A declared foreign key leads to a field that the lookups find. -/
theorem target_declared (valid : snapshot.Valid) (tableMember : table ∈ snapshot.tables)
    (fieldMember : field ∈ table.fields) (declared : field.foreignKey = some key) :
    ∃ target, snapshot.table? key.table = some target ∧ (target.field? key.field).isSome := by
  have related :
      (⟨table.name, field.name, key.table, key.field⟩ : Relation) ∈ snapshot.relations := by
    simp only [relations, Table.relations, List.mem_flatMap, List.mem_filterMap]
    exact ⟨table, tableMember, field, fieldMember, by simp [declared]⟩
  obtain ⟨target, targetMember, named, present⟩ := valid.anchored _ related
  exact ⟨target, valid.table?_eq_some_iff.mpr ⟨targetMember, named⟩,
    Table.field?_isSome_iff.mpr present⟩

end Valid

end Snapshot

end SchemaDelta
