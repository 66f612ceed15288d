import SchemaDelta.Proofs.Bootstrap

/-!
# Changes without a statement

A dialect has no statement for some changes: a key flag is never changed in place, and an embedded
database has nothing for attributes other than the type, and no policies. A migration has no
statement at all exactly when the diff consists of such changes, which is not the same as an empty
diff.
-/

namespace SchemaDelta

/-! ## Changes -/

/-- No attribute that changes can be changed by a statement. -/
def FieldModification.Inexpressible (dialect : Dialect) (m : FieldModification) : Prop :=
  m.type = none ∧
    (dialect.isEmbedded = true ∨ m.nullable = none ∧ m.default = none ∧ m.foreignKey = none)

/-- No column is added, removed or changed by a statement. -/
def TableModification.Inexpressible (dialect : Dialect) (m : TableModification) : Prop :=
  m.fieldsAdded = [] ∧ m.fieldsRemoved = [] ∧ ∀ m' ∈ m.fieldsModified, m'.Inexpressible dialect

/-- No part of the diff has a statement. -/
def Diff.Inexpressible (dialect : Dialect) (diff : Diff) : Prop :=
  diff.added = [] ∧ diff.removed = [] ∧ (∀ m ∈ diff.modified, m.Inexpressible dialect) ∧
    (dialect.isEmbedded = true ∨ diff.access = [])

theorem Diff.inexpressible_of_isEmpty {diff : Diff} (dialect : Dialect)
    (empty : diff.isEmpty = true) : diff.Inexpressible dialect := by
  simp only [isEmpty, tablesEmpty, Bool.and_eq_true, List.isEmpty_iff] at empty
  obtain ⟨⟨⟨added, removed⟩, modified⟩, access⟩ := empty
  refine ⟨added, removed, ?_, .inr access⟩
  rw [modified]
  exact List.forall_mem_nil _

namespace Planner

variable {planner : Planner}

/-! ## Columns -/

theorem statements_onChange_eq_nil_iff {α : Type} {plan : Change α → Plan}
    {change : Option (Change α)} (each : ∀ c, change = some c → (plan c).statements ≠ []) :
    (onChange plan change).statements = [] ↔ change = none := by
  cases change with
  | none => exact iff_of_true rfl rfl
  | some c => exact iff_of_false (each c rfl) nofun

section InPlace

variable (inPlace : planner.dialect.isEmbedded = false) {table column : String}

include inPlace

theorem statements_alterNullable_ne_nil (change : Change Bool) :
    (planner.alterNullable table column change).statements ≠ [] := by
  simp [alterNullable, Dialect.supportsAlterColumnConstraints, inPlace]

theorem statements_alterDefault_ne_nil {before after : Option DefaultValue}
    (complete : (planner.alterDefault table column ⟨before, after⟩).Complete) :
    (planner.alterDefault table column ⟨before, after⟩).statements ≠ [] := by
  simp only [alterDefault, Dialect.supportsAlterColumnConstraints, inPlace, Bool.not_false,
    if_true] at complete ⊢
  cases after with
  | none => simp
  | some value =>
    obtain ⟨rendered, made, -⟩ := Plan.complete_ofResult.mp complete
    simp [made]

/-- A foreign key that differs from the one before is dropped or added. -/
theorem statements_alterForeignKey_ne_nil {before after : Option ForeignKey}
    (differ : before ≠ after) :
    (planner.alterForeignKey table column ⟨before, after⟩).statements ≠ [] := by
  simp only [alterForeignKey, Dialect.usesSeparateForeignKeys, inPlace, Bool.not_false, if_true]
  rw [Plan.statements_append (complete_dropConstraint _)]
  cases before with
  | some key => simp [statements_dropConstraint inPlace]
  | none =>
    cases after with
    | none => exact absurd rfl differ
    | some key => simp [addConstraint, Dialect.usesSeparateForeignKeys, inPlace]

theorem statements_alterConstraints_eq_nil_iff {before after : Field}
    (complete : (planner.alterConstraints table (.between before after)).Complete) :
    (planner.alterConstraints table (.between before after)).statements = [] ↔
      (FieldModification.between before after).nullable = none ∧
      (FieldModification.between before after).default = none ∧
      (FieldModification.between before after).foreignKey = none := by
  obtain ⟨first, -⟩ := Plan.complete_append.mp complete
  obtain ⟨nullable, default⟩ := Plan.complete_append.mp first
  rw [alterConstraints, Plan.statements_append first, Plan.statements_append nullable,
    List.append_eq_nil_iff, List.append_eq_nil_iff, and_assoc]
  refine and_congr ?nullable (and_congr ?default ?foreignKey)
  case nullable =>
    exact statements_onChange_eq_nil_iff fun c _ => statements_alterNullable_ne_nil inPlace c
  case default =>
    apply statements_onChange_eq_nil_iff
    intro c changed
    rw [changed] at default
    exact statements_alterDefault_ne_nil inPlace default
  case foreignKey =>
    apply statements_onChange_eq_nil_iff
    intro c changed
    obtain ⟨differ, rfl⟩ := Change.between_eq_some_iff.mp changed
    exact statements_alterForeignKey_ne_nil inPlace (by simpa using differ)

end InPlace

theorem statements_modifyField_eq_nil_iff {declaration : Table} {before after : Field}
    (complete : (planner.modifyField declaration (.between before after)).Complete) :
    (planner.modifyField declaration (.between before after)).statements = [] ↔
      (FieldModification.between before after).Inexpressible planner.dialect := by
  cases embedded : planner.dialect.isEmbedded with
  | true =>
    rw [statements_modifyField_of_embedded embedded, FieldModification.Inexpressible]
    cases (FieldModification.between before after).type with
    | none => simp [embedded]
    | some change => simp [statements_rebuildColumn]
  | false =>
    obtain ⟨statements, altered⟩ := statements_modifyField_of_inPlace embedded complete
    rw [statements, List.append_eq_nil_iff, FieldModification.Inexpressible, embedded,
      statements_alterConstraints_eq_nil_iff embedded altered]
    cases (FieldModification.between before after).type <;> simp

theorem statements_addField_ne_nil {table : String} {field : Field}
    (complete : (planner.addField table field).Complete) :
    (planner.addField table field).statements ≠ [] := by
  obtain ⟨column, made, -⟩ := Plan.complete_ofResult.mp complete
  rw [addField, made, Plan.ofResult_ok, Plan.statements_append (Plan.complete_execute _)]
  simp

theorem statements_removeField_ne_nil (table : String) (field : Field) :
    (planner.removeField table field).statements ≠ [] := by
  rw [removeField, Plan.statements_append (complete_dropConstraint _)]
  simp

/-! ## Tables -/

/-- Parts that all have statements have none together only if there is no part. -/
theorem flatMap_eq_nil_iff_of_ne_nil {α β : Type} {items : List α} {f : α → List β}
    (each : ∀ item ∈ items, f item ≠ []) : items.flatMap f = [] ↔ items = [] := by
  rw [List.flatMap_eq_nil_iff, List.eq_nil_iff_forall_not_mem]
  exact forall₂_congr fun item member => iff_false_intro (each item member)

theorem statements_modifyTable_eq_nil_iff {before after : Table}
    (declared : planner.target.table? after.name = some after)
    (complete : (planner.modifyTable (.between before after)).Complete) :
    (planner.modifyTable (.between before after)).statements = [] ↔
      (TableModification.between before after).Inexpressible planner.dialect := by
  obtain ⟨adds, -, modifies⟩ := (complete_modifyTable_iff declared).mp complete
  rw [statements_modifyTable declared complete, List.append_eq_nil_iff, List.append_eq_nil_iff,
    and_assoc, TableModification.Inexpressible]
  refine and_congr ?added (and_congr ?removed ?modified)
  case added =>
    exact flatMap_eq_nil_iff_of_ne_nil fun field member =>
      statements_addField_ne_nil (adds field member)
  case removed =>
    exact flatMap_eq_nil_iff_of_ne_nil fun field _ => statements_removeField_ne_nil _ field
  case modified =>
    rw [List.flatMap_eq_nil_iff]
    refine forall₂_congr fun m member => ?_
    obtain ⟨field, -, old, rfl⟩ := TableModification.exists_of_mem_fieldsModified member
    exact statements_modifyField_eq_nil_iff (modifies _ member)

theorem statements_createTables_eq_nil_iff {tables : List Table}
    (complete : (planner.createTables tables).Complete) :
    (planner.createTables tables).statements = [] ↔ tables = [] := by
  rw [statements_createTables complete, List.append_eq_nil_iff]
  constructor
  · rintro ⟨creates, -⟩
    refine (flatMap_eq_nil_iff_of_ne_nil fun table member => ?_).mp creates
    obtain ⟨columns, -, create⟩ :=
      exists_statements_createTable (complete_createTables_iff.mp complete table member)
    simp [create]
  · rintro rfl
    exact ⟨rfl, rfl⟩

theorem statements_policies_eq_nil_iff {changes : List AccessChange}
    (complete : (planner.policies changes).Complete) :
    (planner.policies changes).statements = [] ↔
      planner.dialect.isEmbedded = true ∨ changes = [] := by
  cases embedded : planner.dialect.isEmbedded with
  | true =>
    simp [statements_policies_of_not_supported planner changes, Dialect.supportsPolicies, embedded]
  | false =>
    have supported : planner.dialect.supportsPolicies = true := by
      simp [Dialect.supportsPolicies, embedded]
    have blocks : ∀ change ∈ changes, planner.policyStatements change ≠ [] :=
      fun _ _ => List.cons_ne_nil _ _
    rw [statements_policies supported complete, flatMap_eq_nil_iff_of_ne_nil blocks]
    simp

/-! ## Migrations -/

/-- A complete plan has no statement exactly when no part of the diff has one. -/
theorem statements_carryOut_eq_nil_iff {before after : Snapshot} (validAfter : after.Valid)
    (target : planner.target = after)
    (complete : (planner.carryOut (.between before after)).Complete) :
    (planner.carryOut (.between before after)).statements = [] ↔
      (Diff.between before after).Inexpressible planner.dialect := by
  obtain ⟨creates, modifies, policies⟩ := complete_carryOut_iff.mp complete
  have drops : ((Diff.between before after).removed.flatMap fun table =>
      (planner.dropTable table).statements) = [] ↔ (Diff.between before after).removed = [] :=
    flatMap_eq_nil_iff_of_ne_nil fun table _ => by simp [dropTable]
  have changes : ((Diff.between before after).modified.flatMap fun m =>
      (planner.modifyTable m).statements) = [] ↔
        ∀ m ∈ (Diff.between before after).modified, m.Inexpressible planner.dialect := by
    rw [List.flatMap_eq_nil_iff]
    refine forall₂_congr fun m member => ?_
    obtain ⟨table, declared, old, rfl⟩ := Diff.exists_of_mem_modified member
    have found : planner.target.table? table.name = some table :=
      target ▸ validAfter.table?_eq_some_iff.mpr ⟨declared, rfl⟩
    exact statements_modifyTable_eq_nil_iff found (modifies _ member)
  rw [statements_carryOut complete, List.append_eq_nil_iff, List.append_eq_nil_iff,
    List.append_eq_nil_iff, drops, changes, statements_policies_eq_nil_iff policies,
    statements_createTables_eq_nil_iff (complete_createTables_iff.mpr creates)]
  unfold Diff.Inexpressible
  tauto

end Planner

/-- A migration has nothing to execute exactly when no part of the diff has a statement. -/
theorem Synthesizer.isEmpty_migrate_iff {synthesizer : Synthesizer} {dialect : Dialect}
    {before after : Snapshot} {migration : Migration} (validAfter : after.Valid)
    (made : synthesizer.migrate before after dialect = .ok migration) :
    migration.isEmpty = true ↔ (Diff.between before after).Inexpressible dialect := by
  obtain ⟨complete, rfl⟩ := Plan.toMigration_eq_ok_iff.mp made
  rw [Migration.isEmpty, List.isEmpty_iff]
  exact Planner.statements_carryOut_eq_nil_iff validAfter rfl complete

end SchemaDelta
