import SchemaDelta.Proofs.Settlement.Rebuild

/-!
# Warnings of a migration

The warnings of a complete plan are about fields that both snapshots have, in the order of the new
snapshot. What they say of a field depends on its two declarations alone.
-/

namespace SchemaDelta

namespace Dialect

/-- The warnings about attributes that a column keeps although the field changed. -/
def skippedWarnings (table : String) (before after : Field) : List Warning :=
  (if before.nullable = after.nullable then []
    else [.nullabilitySkipped table after.name after.nullable]) ++
  (if before.default == after.default then [] else [.defaultSkipped table after.name]) ++
  (if before.foreignKey = after.foreignKey then [] else [.foreignKeySkipped table after.name])

/-- The warnings about a field that both snapshots have. -/
def fieldWarnings (dialect : Dialect) (table : String) (before after : Field) : List Warning :=
  (if dialect.isEmbedded then
    if before.type = after.type then skippedWarnings table before after
    else
      (Planner.rebuildLosses (.between before after) after).map (.rebuildDropped table after.name)
  else []) ++
  (if before.primaryKey = after.primaryKey then []
    else [.primaryKeyChange table after.name after.primaryKey])

/-- The warnings about a table, of which the old declaration is given if there is one. -/
def tableWarnings (dialect : Dialect) (before : Option Table) (after : Table) : List Warning :=
  after.fields.flatMap fun field =>
    match before.bind (·.field? field.name) with
    | none => []
    | some old => dialect.fieldWarnings after.name old field

/-- The warnings of a migration from one snapshot to another. -/
def settledWarnings (dialect : Dialect) (before after : Snapshot) : List Warning :=
  after.tables.flatMap fun table => dialect.tableWarnings (before.table? table.name) table

variable {dialect : Dialect} {before after : Field}

theorem fieldWarnings_of_isEmpty (table : String)
    (unchanged : (FieldModification.between before after).isEmpty = true) :
    dialect.fieldWarnings table before after = [] := by
  obtain ⟨type, nullable, primaryKey, default, key⟩ :=
    FieldModification.isEmpty_between.mp unchanged
  simp [fieldWarnings, skippedWarnings, type, nullable, primaryKey, default, key]

theorem tableWarnings_of_isEmpty {before after : Table}
    (distinct : (before.fields.map Field.name).Nodup)
    (unchanged : (TableModification.between before after).isEmpty = true) :
    dialect.tableWarnings (some before) after = [] := by
  refine List.flatMap_eq_nil_iff.mpr fun field member => ?_
  simp only [Option.bind_some]
  cases foundOld : before.field? field.name with
  | none => rfl
  | some old =>
    exact fieldWarnings_of_isEmpty _
      (TableModification.isEmpty_field distinct unchanged member foundOld)

/-- A warning of a migration is about a field that both snapshots have. -/
theorem mem_settledWarnings_iff {before after : Snapshot} (valid : after.Valid) {w : Warning} :
    w ∈ dialect.settledWarnings before after ↔ ∃ table name old field,
      before.field? table name = some old ∧ after.field? table name = some field ∧
        w ∈ dialect.fieldWarnings table old field := by
  constructor
  · intro member
    obtain ⟨table, tableMember, member⟩ := List.mem_flatMap.mp member
    obtain ⟨field, fieldMember, member⟩ := List.mem_flatMap.mp member
    cases found : before.field? table.name field.name with
    | none =>
      change (before.table? table.name).bind (·.field? field.name) = none at found
      rw [found] at member
      cases member
    | some old =>
      refine ⟨table.name, field.name, old, field, found,
        valid.field?_of_mem tableMember fieldMember, ?_⟩
      change (before.table? table.name).bind (·.field? field.name) = some old at found
      rwa [found] at member
  · rintro ⟨owner, name, old, field, foundOld, found, member⟩
    obtain ⟨table, tableMember, rfl, fieldMember, rfl⟩ := valid.exists_of_field? found
    refine List.mem_flatMap.mpr ⟨table, tableMember, List.mem_flatMap.mpr ⟨field, fieldMember, ?_⟩⟩
    change (before.table? table.name).bind (·.field? field.name) = some old at foundOld
    rwa [foundOld]

end Dialect

namespace Planner

variable {planner : Planner}

theorem silent_onChange {α : Type} {plan : Change α → Plan} {change : Option (Change α)}
    (each : ∀ c, (plan c).Silent) : (onChange plan change).Silent := by
  cases change with
  | none => exact Plan.silent_nothing
  | some c => exact each c

theorem silent_addConstraint (table column : String) (key : Option ForeignKey) :
    (planner.addConstraint table column key).Silent := by
  cases key with
  | none => exact Plan.silent_nothing
  | some key =>
    simp only [addConstraint]
    split
    · exact Plan.silent_execute _
    · exact Plan.silent_nothing

theorem silent_dropConstraint (table column : String) (key : Option ForeignKey) :
    (planner.dropConstraint table column key).Silent := by
  cases key with
  | none => exact Plan.silent_nothing
  | some key =>
    simp only [dropConstraint]
    split
    · exact Plan.silent_execute _
    · exact Plan.silent_nothing

theorem silent_alterConstraints (inPlace : planner.dialect.isEmbedded = false) (table : String)
    (m : FieldModification) : (planner.alterConstraints table m).Silent := by
  refine Plan.silent_append (Plan.silent_append ?nullable ?default) ?foreignKey
  case nullable =>
    refine silent_onChange fun change => ?_
    simp [alterNullable, Dialect.supportsAlterColumnConstraints, inPlace]
  case default =>
    refine silent_onChange fun change => ?_
    simp only [alterDefault, Dialect.supportsAlterColumnConstraints, inPlace, Bool.not_false,
      if_true]
    split
    · exact Plan.silent_ofResult fun _ => Plan.silent_execute _
    · exact Plan.silent_execute _
  case foreignKey =>
    refine silent_onChange fun change => ?_
    simp only [alterForeignKey, Dialect.usesSeparateForeignKeys, inPlace, Bool.not_false, if_true]
    exact Plan.silent_append (silent_dropConstraint _ _ _) (silent_addConstraint _ _ _)

theorem warnings_modifyField {declaration : Table} {before after : Field}
    (found : declaration.field? after.name = some after)
    (complete : (planner.modifyField declaration (.between before after)).Complete) :
    (planner.modifyField declaration (.between before after)).warnings =
      planner.dialect.fieldWarnings declaration.name before after := by
  obtain ⟨main, -⟩ := Plan.complete_append.mp complete
  rw [modifyField, Plan.warnings_append main, warnings_onChange_warn, Dialect.fieldWarnings]
  congr 1
  · cases embedded : planner.dialect.isEmbedded with
    | false =>
      rw [if_neg (by simp)]
      cases changed : (FieldModification.between before after).type with
      | none => exact silent_alterConstraints embedded _ _
      | some change =>
        simp only [Dialect.supportsAlterColumnType, embedded, Bool.not_false, if_true]
        exact Plan.silent_append (Plan.silent_execute _) (silent_alterConstraints embedded _ _)
    | true =>
      rw [if_pos rfl]
      by_cases same : before.type = after.type
      · rw [FieldModification.between_type_of_eq same, if_pos same]
        simp only
        rw [warnings_alterConstraints embedded, Dialect.skippedWarnings]
        simp [FieldModification.between, Change.toList_map_between]
      · rw [FieldModification.between_type_of_ne same, if_neg same]
        simp only [Dialect.supportsAlterColumnType, embedded, Bool.not_true]
        rw [if_neg (by simp), warnings_rebuildColumn]
        simp [found]
  · simp [FieldModification.between, Change.toList_map_between]

theorem silent_addField (table : String) (field : Field) :
    (planner.addField table field).Silent :=
  Plan.silent_ofResult fun _ =>
    Plan.silent_append (Plan.silent_execute _) (silent_addConstraint _ _ _)

theorem silent_removeField (table : String) (field : Field) :
    (planner.removeField table field).Silent :=
  Plan.silent_append (silent_dropConstraint _ _ _) (Plan.silent_execute _)

/-- The warnings about a modified table are those about its declarations. -/
theorem warnings_modifyTable {before after : Table}
    (distinct : (after.fields.map Field.name).Nodup)
    (distinctBefore : (before.fields.map Field.name).Nodup)
    (declared : planner.target.table? after.name = some after)
    (complete : (planner.modifyTable (.between before after)).Complete) :
    (planner.modifyTable (.between before after)).warnings =
      planner.dialect.tableWarnings (some before) after := by
  rw [modifyTable, TableModification.between_table, declared] at complete ⊢
  simp only at complete ⊢
  obtain ⟨first, modifies⟩ := Plan.complete_append.mp complete
  have silent : (Plan.sequence ((TableModification.between before after).fieldsAdded.map
        (planner.addField after.name)) ++
      Plan.sequence ((TableModification.between before after).fieldsRemoved.map
        (planner.removeField after.name))).warnings = [] := by
    refine Plan.silent_append (Plan.silent_sequence ?_) (Plan.silent_sequence ?_)
    · exact List.forall_mem_map.mpr fun field _ => silent_addField after.name field
    · exact List.forall_mem_map.mpr fun field _ => silent_removeField after.name field
  rw [Plan.warnings_append first, silent, List.nil_append]
  rw [Plan.complete_sequence_map] at modifies
  rw [Plan.warnings_sequence_map modifies]
  refine flatMap_filterMap_eq fun field member => ?_
  simp only [Option.bind_some, Table.lastField?_eq_field? distinctBefore]
  cases foundOld : before.field? field.name with
  | none => rfl
  | some old =>
    simp only [Option.bind_some]
    cases made : FieldModification.between? old field with
    | none =>
      exact (Dialect.fieldWarnings_of_isEmpty _
        (FieldModification.between?_eq_none_iff.mp made)).symm
    | some m =>
      obtain ⟨changed, rfl⟩ := FieldModification.between?_eq_some_iff.mp made
      exact warnings_modifyField ((Table.field?_eq_some_iff distinct).mpr ⟨member, rfl⟩)
        (modifies _ ((TableModification.mem_fieldsModified distinctBefore).mpr
          ⟨field, member, old, foundOld, changed, rfl⟩))

theorem silent_createTables (tables : List Table) : (planner.createTables tables).Silent := by
  refine Plan.silent_append (Plan.silent_sequence ?_) (Plan.silent_sequence ?_)
  · refine List.forall_mem_map.mpr fun table _ => Plan.silent_ofResult fun columns => ?_
    exact Plan.silent_execute _
  · refine List.forall_mem_map.mpr fun table _ => Plan.silent_sequence ?_
    exact List.forall_mem_map.mpr fun field _ => silent_addConstraint _ _ _

theorem silent_policies (changes : List AccessChange) : (planner.policies changes).Silent := by
  refine Plan.silent_append (Plan.silent_sequence ?_) (Plan.silent_sequence ?_)
  · refine List.forall_mem_map.mpr fun change _ => Plan.silent_ofResult fun block => ?_
    unfold notePolicies
    split <;> rfl
  · refine List.forall_mem_map.mpr fun change _ => Plan.silent_ofResult fun block => ?_
    exact Plan.silent_execute _

/-- The warnings of a complete plan. -/
theorem warnings_carryOut {before after : Snapshot} (validBefore : before.Valid)
    (validAfter : after.Valid) (target : planner.target = after)
    (complete : (planner.carryOut (.between before after)).Complete) :
    (planner.carryOut (.between before after)).warnings =
      planner.dialect.settledWarnings before after := by
  obtain ⟨untilModified, -⟩ := Plan.complete_append.mp complete
  obtain ⟨untilCreated, modifies⟩ := Plan.complete_append.mp untilModified
  have drops : (Plan.sequence ((Diff.between before after).removed.map planner.dropTable) ++
      planner.createTables (Diff.between before after).added).warnings = [] := by
    refine Plan.silent_append (Plan.silent_sequence ?_) (silent_createTables _)
    exact List.forall_mem_map.mpr fun table _ => Plan.silent_execute _
  have policies : (planner.policies (Diff.between before after).access).warnings = [] :=
    silent_policies _
  rw [carryOut, Plan.warnings_append untilModified, Plan.warnings_append untilCreated, drops,
    policies, List.nil_append, List.append_nil]
  rw [Plan.complete_sequence_map] at modifies
  rw [Plan.warnings_sequence_map modifies]
  refine flatMap_filterMap_eq fun table member => ?_
  simp only [Snapshot.lastTable?_eq_table? validBefore.tablesDistinct]
  cases foundOld : before.table? table.name with
  | none => simp [Dialect.tableWarnings]
  | some old =>
    have distinct := validAfter.fieldsDistinct table member
    have distinctBefore := validBefore.fieldsDistinct old (Snapshot.mem_of_table? foundOld)
    simp only [Option.bind_some]
    cases made : TableModification.between? old table with
    | none =>
      exact (Dialect.tableWarnings_of_isEmpty distinctBefore
        (TableModification.between?_eq_none_iff.mp made)).symm
    | some m =>
      obtain ⟨changed, rfl⟩ := TableModification.between?_eq_some_iff.mp made
      exact warnings_modifyTable distinct distinctBefore
        (target ▸ validAfter.table?_eq_some_iff.mpr ⟨member, rfl⟩)
        (modifies _ ((Diff.mem_modified validBefore.tablesDistinct).mpr
          ⟨table, member, old, foundOld, changed, rfl⟩))

end Planner

end SchemaDelta
