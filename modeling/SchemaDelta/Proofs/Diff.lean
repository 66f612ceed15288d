import SchemaDelta.Proofs.Equality
import SchemaDelta.Proofs.Validity

/-!
# What a diff records

The names in the lists of a diff: an added table is one of the new snapshot alone, a removed one of
the old snapshot alone, and a modified one belongs to both. The same holds of the fields of a
modified table. A modification is left out when nothing differs.
-/

namespace SchemaDelta

section Lists

variable {α β : Type}

/-- Items that keep the name of what they are made from keep the order of the names. -/
theorem filterMap_names_sublist {γ : Type} {name : α → γ} {name' : β → γ} {f : α → Option β}
    (same : ∀ x y, f x = some y → name' y = name x) (items : List α) :
    ((items.filterMap f).map name').Sublist (items.map name) := by
  induction items with
  | nil => simp
  | cons item items ih =>
    cases made : f item with
    | none => simpa [made] using ih.cons _
    | some y => simpa [made, same item y made] using ih

/-- Among items with different names the one that is made from a bearer of a name is found by that
name, and there is no other. -/
theorem find?_filterMap_of_name {name : α → String} {name' : β → String} {f : α → Option β}
    (same : ∀ x y, f x = some y → name' y = name x) {items : List α}
    (distinct : (items.map name).Nodup) {item : α} (member : item ∈ items) :
    (items.filterMap f).find? (name' · == name item) = f item := by
  cases made : f item with
  | some y =>
    have distinct' := distinct.sublist (filterMap_names_sublist same items)
    exact (find?_name_eq_some_iff distinct').mpr
      ⟨List.mem_filterMap.mpr ⟨item, member, made⟩, same item y made⟩
  | none =>
    rw [List.find?_eq_none]
    intro y made'
    obtain ⟨other, member', made'⟩ := List.mem_filterMap.mp made'
    rw [beq_iff_eq, same other y made']
    intro named
    rw [List.inj_on_of_nodup_map distinct member' member named, made] at made'
    cases made'

theorem find?_name_reverse_isNone {items : List α} {name : α → String} {key : String} :
    (items.reverse.find? (name · == key)).isNone ↔ key ∉ items.map name := by
  simp [List.find?_eq_none]

theorem flatMap_filterMap_eq {γ : Type} {items : List α} {f : α → Option β} {g : β → List γ}
    {h : α → List γ} (each : ∀ item ∈ items, ((f item).map g).getD [] = h item) :
    (items.filterMap f).flatMap g = items.flatMap h := by
  induction items with
  | nil => rfl
  | cons item items ih =>
    obtain ⟨head, tail⟩ := List.forall_mem_cons.mp each
    rw [List.flatMap_cons, ← head, ← ih tail]
    cases made : f item <;> simp [made]

end Lists

namespace FieldModification

variable {before after : Field} {m : FieldModification}

@[simp] theorem between_name : (between before after).name = after.name := rfl

theorem between_type_of_eq (same : before.type = after.type) : (between before after).type = none :=
  Change.between_of_eq same

theorem between_type_of_ne (differ : before.type ≠ after.type) :
    (between before after).type = some ⟨before.type, after.type⟩ :=
  Change.between_of_ne differ

theorem between?_eq_some_iff :
    between? before after = some m ↔
      (between before after).isEmpty = false ∧ m = between before after := by
  simp only [between?, Option.ite_none_left_eq_some, Option.some.injEq, Bool.not_eq_true]
  exact and_congr_right' eq_comm

theorem between?_eq_none_iff :
    between? before after = none ↔ (between before after).isEmpty = true := by
  simp [between?]

theorem isEmpty_between :
    (between before after).isEmpty = true ↔
      before.type = after.type ∧ before.nullable = after.nullable ∧
        before.primaryKey = after.primaryKey ∧ (before.default == after.default) = true ∧
        before.foreignKey = after.foreignKey := by
  simp [isEmpty, between, Change.between_eq_none_iff, and_assoc]

end FieldModification

namespace AccessChange

variable {table : String} {before after : AccessControl} {change : AccessChange}

theorem between?_eq_some_iff :
    between? table before after = some change ↔
      (between table before after).isEmpty = false ∧ change = between table before after := by
  simp only [between?, Option.ite_none_left_eq_some, Option.some.injEq, Bool.not_eq_true]
  exact and_congr_right' eq_comm

theorem between?_eq_none_iff :
    between? table before after = none ↔ (between table before after).isEmpty = true := by
  simp [between?]

end AccessChange

namespace TableModification

variable {before after : Table} {m : TableModification} {name : String}

@[simp] theorem between_table : (between before after).table = after.name := rfl

theorem between?_eq_some_iff :
    between? before after = some m ↔
      (between before after).isEmpty = false ∧ m = between before after := by
  simp only [between?, Option.ite_none_left_eq_some, Option.some.injEq, Bool.not_eq_true]
  exact and_congr_right' eq_comm

theorem between?_eq_none_iff :
    between? before after = none ↔ (between before after).isEmpty = true := by
  simp [between?]

theorem mem_fieldsAdded {field : Field} :
    field ∈ (between before after).fieldsAdded ↔
      field ∈ after.fields ∧ before.field? field.name = none := by
  rw [Table.field?_eq_none_iff]
  simp only [between, Table.lastField?, List.mem_filter, find?_name_reverse_isNone]

theorem mem_fieldsRemoved {field : Field} :
    field ∈ (between before after).fieldsRemoved ↔
      field ∈ before.fields ∧ after.field? field.name = none := by
  rw [Table.field?_eq_none_iff]
  simp only [between, Table.lastField?, List.mem_filter, find?_name_reverse_isNone]

theorem mem_fieldsAdded_names :
    name ∈ (between before after).fieldsAdded.map Field.name ↔
      name ∈ after.fields.map Field.name ∧ name ∉ before.fields.map Field.name := by
  simp only [List.mem_map, mem_fieldsAdded, Table.field?_eq_none_iff]
  grind

theorem mem_fieldsRemoved_names :
    name ∈ (between before after).fieldsRemoved.map Field.name ↔
      name ∈ before.fields.map Field.name ∧ name ∉ after.fields.map Field.name := by
  simp only [List.mem_map, mem_fieldsRemoved, Table.field?_eq_none_iff]
  grind

/-- A modified field is one of the new table, compared with the last of its name before. -/
theorem exists_of_mem_fieldsModified {m : FieldModification}
    (member : m ∈ (between before after).fieldsModified) :
    ∃ field ∈ after.fields, ∃ old, m = .between old field := by
  obtain ⟨field, declared, made⟩ := List.mem_filterMap.mp member
  obtain ⟨old, -, made⟩ := Option.bind_eq_some_iff.mp made
  exact ⟨field, declared, old, (FieldModification.between?_eq_some_iff.mp made).2⟩

theorem mem_fieldsModified {m : FieldModification}
    (distinct : (before.fields.map Field.name).Nodup) :
    m ∈ (between before after).fieldsModified ↔ ∃ field ∈ after.fields, ∃ old,
      before.field? field.name = some old ∧
        (FieldModification.between old field).isEmpty = false ∧ m = .between old field := by
  simp [between, Option.bind_eq_some_iff, Table.lastField?_eq_field? distinct,
    FieldModification.between?_eq_some_iff]

/-- If a table stays as it is, so do its fields. -/
theorem isEmpty_field {old field : Field} (distinct : (before.fields.map Field.name).Nodup)
    (unchanged : (between before after).isEmpty = true) (member : field ∈ after.fields)
    (found : before.field? field.name = some old) :
    (FieldModification.between old field).isEmpty = true := by
  simp only [isEmpty, Bool.and_eq_true, List.isEmpty_iff] at unchanged
  by_contra changed
  rw [Bool.not_eq_true] at changed
  have modified := (mem_fieldsModified distinct).mpr ⟨field, member, old, found, changed, rfl⟩
  rw [unchanged.1.2] at modified
  cases modified

theorem fieldsAdded_distinct (distinct : (after.fields.map Field.name).Nodup) :
    ((between before after).fieldsAdded.map Field.name).Nodup :=
  distinct.sublist (List.filter_sublist.map _)

theorem fieldsRemoved_distinct (distinct : (before.fields.map Field.name).Nodup) :
    ((between before after).fieldsRemoved.map Field.name).Nodup :=
  distinct.sublist (List.filter_sublist.map _)

/-- Modified fields stand in the order of the new table. -/
theorem fieldsModified_sublist :
    ((between before after).fieldsModified.map FieldModification.name).Sublist
      (after.fields.map Field.name) := by
  refine filterMap_names_sublist (fun field m made => ?_) _
  obtain ⟨old, -, made⟩ := Option.bind_eq_some_iff.mp made
  obtain ⟨-, rfl⟩ := FieldModification.between?_eq_some_iff.mp made
  rfl

theorem fieldsModified_distinct (distinct : (after.fields.map Field.name).Nodup) :
    ((between before after).fieldsModified.map FieldModification.name).Nodup :=
  distinct.sublist fieldsModified_sublist

end TableModification

namespace Diff

variable {before after : Snapshot} {name : String}

theorem mem_added {table : Table} :
    table ∈ (between before after).added ↔
      table ∈ after.tables ∧ before.table? table.name = none := by
  rw [Snapshot.table?_eq_none_iff]
  simp only [between, Snapshot.lastTable?, List.mem_filter, find?_name_reverse_isNone]
  rfl

theorem mem_removed {table : Table} :
    table ∈ (between before after).removed ↔
      table ∈ before.tables ∧ after.table? table.name = none := by
  rw [Snapshot.table?_eq_none_iff]
  simp only [between, Snapshot.lastTable?, List.mem_filter, find?_name_reverse_isNone]
  rfl

theorem mem_added_names :
    name ∈ (between before after).added.map Table.name ↔
      name ∈ after.tableNames ∧ name ∉ before.tableNames := by
  simp only [List.mem_map, mem_added, Snapshot.table?_eq_none_iff, Snapshot.tableNames]
  grind

theorem mem_removed_names :
    name ∈ (between before after).removed.map Table.name ↔
      name ∈ before.tableNames ∧ name ∉ after.tableNames := by
  simp only [List.mem_map, mem_removed, Snapshot.table?_eq_none_iff, Snapshot.tableNames]
  grind

/-- A modified table is one of the new snapshot, compared with the last of its name before. -/
theorem exists_of_mem_modified {m : TableModification}
    (member : m ∈ (between before after).modified) :
    ∃ table ∈ after.tables, ∃ old, m = .between old table := by
  obtain ⟨table, declared, made⟩ := List.mem_filterMap.mp member
  obtain ⟨old, -, made⟩ := Option.bind_eq_some_iff.mp made
  exact ⟨table, declared, old, (TableModification.between?_eq_some_iff.mp made).2⟩

theorem mem_modified {m : TableModification} (distinct : before.tableNames.Nodup) :
    m ∈ (between before after).modified ↔ ∃ table ∈ after.tables, ∃ old,
      before.table? table.name = some old ∧
        (TableModification.between old table).isEmpty = false ∧ m = .between old table := by
  simp [between, Option.bind_eq_some_iff, Snapshot.lastTable?_eq_table? distinct,
    TableModification.between?_eq_some_iff]

/-- All rules of a new table are recorded, and of another one those that differ from the rules that
the last table of its name had before. -/
theorem mem_access_iff {change : AccessChange} :
    change ∈ (between before after).access ↔ ∃ table ∈ after.tables,
      (before.lastTable? table.name = none ∧ change = .ofNewTable table) ∨
      ∃ old, before.lastTable? table.name = some old ∧
        AccessChange.between? table.name old.access table.access = some change := by
  simp only [between, List.mem_filterMap]
  refine exists_congr fun table => and_congr_right' ?_
  cases before.lastTable? table.name with
  | none => simp [eq_comm]
  | some old => simp

/-- An access change is about a table of the new snapshot. It records the new conditions, and it
records all of them if the table is new. -/
theorem exists_of_mem_access {change : AccessChange}
    (member : change ∈ (between before after).access) :
    ∃ table ∈ after.tables, change.table = table.name ∧
      (∀ operation rule, change.get operation = some rule →
        rule.after = table.access.get operation) ∧
      (before.lastTable? table.name = none → change = .ofNewTable table) := by
  obtain ⟨table, declared, ⟨-, rfl⟩ | ⟨old, known, made⟩⟩ := mem_access_iff.mp member
  · refine ⟨table, declared, rfl, fun operation rule recorded => ?_, fun _ => rfl⟩
    cases operation <;> cases recorded <;> rfl
  · obtain ⟨-, rfl⟩ := AccessChange.between?_eq_some_iff.mp made
    refine ⟨table, declared, rfl, fun operation rule recorded => ?_, fun absent => ?_⟩
    · cases operation <;> obtain ⟨-, rfl⟩ := Change.between_eq_some_iff.mp recorded <;> rfl
    · rw [known] at absent
      cases absent

theorem mem_access {change : AccessChange} (distinct : before.tableNames.Nodup)
    (member : change ∈ (between before after).access) :
    ∃ table ∈ after.tables, change.table = table.name ∧
      (∀ operation rule, change.get operation = some rule →
        rule.after = table.access.get operation) ∧
      (before.table? table.name = none → change = .ofNewTable table) := by
  obtain ⟨table, declared, named, conditions, new⟩ := exists_of_mem_access member
  rw [Snapshot.lastTable?_eq_table? distinct] at new
  exact ⟨table, declared, named, conditions, new⟩

/-- Access changes are recorded for tables of the new snapshot. -/
theorem table_of_mem_access {change : AccessChange} (distinct : before.tableNames.Nodup)
    (member : change ∈ (between before after).access) : change.table ∈ after.tableNames := by
  obtain ⟨table, declared, named, -⟩ := mem_access distinct member
  rw [named]
  exact List.mem_map_of_mem declared

variable (before) in
theorem table_of_access {table : Table} {change : AccessChange}
    (made : (match before.lastTable? table.name with
      | none => some (AccessChange.ofNewTable table)
      | some old => AccessChange.between? table.name old.access table.access) = some change) :
    change.table = table.name := by
  cases old : before.lastTable? table.name with
  | none =>
    rw [old, Option.some.injEq] at made
    exact made ▸ rfl
  | some previous =>
    rw [old] at made
    obtain ⟨-, rfl⟩ := AccessChange.between?_eq_some_iff.mp made
    rfl

/-- Access changes stand in the order of the new snapshot. -/
theorem access_sublist :
    ((between before after).access.map AccessChange.table).Sublist after.tableNames :=
  filterMap_names_sublist (fun _ _ => table_of_access before) _

theorem access_distinct (distinct : after.tableNames.Nodup) :
    ((between before after).access.map AccessChange.table).Nodup :=
  distinct.sublist access_sublist

theorem added_distinct (distinct : after.tableNames.Nodup) :
    ((between before after).added.map Table.name).Nodup :=
  distinct.sublist (List.filter_sublist.map _)

theorem removed_distinct (distinct : before.tableNames.Nodup) :
    ((between before after).removed.map Table.name).Nodup :=
  distinct.sublist (List.filter_sublist.map _)

variable (before) in
theorem table_of_modified {table : Table} {m : TableModification}
    (made : (before.lastTable? table.name).bind (TableModification.between? · table) = some m) :
    m.table = table.name := by
  obtain ⟨old, -, made⟩ := Option.bind_eq_some_iff.mp made
  obtain ⟨-, rfl⟩ := TableModification.between?_eq_some_iff.mp made
  rfl

/-- Modified tables stand in the order of the new snapshot. -/
theorem modified_sublist :
    ((between before after).modified.map TableModification.table).Sublist after.tableNames :=
  filterMap_names_sublist (fun _ _ => table_of_modified before) _

theorem modified_distinct (distinct : after.tableNames.Nodup) :
    ((between before after).modified.map TableModification.table).Nodup :=
  distinct.sublist modified_sublist

end Diff

end SchemaDelta
