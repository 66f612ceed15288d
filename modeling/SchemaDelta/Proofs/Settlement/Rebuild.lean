import SchemaDelta.Proofs.Number.Digits
import SchemaDelta.Proofs.Settlement.Column

/-!
# Rebuilt columns

The temporary name of a rebuilt column is not taken: of the attempts there is one more than the
table has fields, and they all differ. So the new column can be added beside the old one, and it
ends up under the old name, with nothing left under the temporary one.
-/

namespace SchemaDelta

theorem rebuildCandidate_injective (column : String) :
    Function.Injective (rebuildCandidate column) := by
  intro i j same
  have letters := congrArg String.toList same
  cases i with
  | zero =>
    cases j with
    | zero => rfl
    | succ j => simp [rebuildCandidate] at letters
  | succ i =>
    cases j with
    | zero => simp [rebuildCandidate] at letters
    | succ j =>
      have digits : Nat.toDigits 10 (i + 1) = Nat.toDigits 10 (j + 1) := by
        simpa [rebuildCandidate, Nat.toString_eq_repr] using letters
      exact toDigits_injective digits

/-- The temporary name is not the name of a field. -/
theorem field?_rebuildName (table : Table) (column : String) :
    table.field? (rebuildName table column) = none := by
  -- if every attempt were taken, there would be more names than fields
  have free : ∃ k ∈ List.range (table.fields.length + 1),
      (table.field? (rebuildCandidate column k)).isNone = true := by
    by_contra taken
    push Not at taken
    have subset : (List.range (table.fields.length + 1)).map (rebuildCandidate column) ⊆
        table.fields.map Field.name := by
      intro name member
      obtain ⟨k, small, rfl⟩ := List.mem_map.mp member
      exact Table.field?_isSome_iff.mp (by simpa [Option.isSome_iff_ne_none] using taken k small)
    have distinct : ((List.range (table.fields.length + 1)).map (rebuildCandidate column)).Nodup :=
      List.nodup_range.map (rebuildCandidate_injective column)
    have count := distinct.length_le_of_subset subset
    rw [List.length_map, List.length_map, List.length_range] at count
    omega
  obtain ⟨k, found⟩ := Option.isSome_iff_exists.mp (List.find?_isSome.mpr free)
  have isFree := List.find?_some found
  simpa [rebuildName, found] using isFree

namespace Columns

variable {columns : Columns} {name temporary : String} {state : ColumnState}

/-- A column makes way for one that was added under a temporary name. -/
theorem run_replace (table : String) (column : Column) (type : NativeType)
    (present : columns name = some state) (free : columns column.name = none) :
    columns.run [
        .addColumn table column,
        .copyCast table name column.name type,
        .dropColumn table name,
        .renameColumn table column.name name] =
      some (Function.update columns name (some (.ofColumn column))) := by
  have apart : column.name ≠ name := fun same => by simp [same, present] at free
  simp [run, alter, free, apart, apart.symm, present]
  funext other
  by_cases same : other = name
  · simp [same]
  · by_cases temporary : other = column.name
    · simp [temporary, apart, free]
    · simp [same, temporary]

end Columns

namespace Planner

variable {planner : Planner} {declaration : Table} {before after : Field}

theorem statements_rebuildColumn (table : Table) (m : FieldModification) (type : FieldType) :
    (planner.rebuildColumn table m type).statements = [
      .addColumn table.name {
        name := rebuildName table m.name
        type := planner.dialect.columnType type
        default := (table.field? m.name).bind planner.rebuiltDefault },
      .copyCast table.name m.name (rebuildName table m.name) (planner.dialect.copyType type),
      .dropColumn table.name m.name,
      .renameColumn table.name (rebuildName table m.name) m.name] := by
  rw [rebuildColumn, Plan.statements_append, Plan.statements_append,
    Plan.statements_sequence_warn, Plan.statements_execute]
  all_goals rfl

theorem complete_rebuildColumn (table : Table) (m : FieldModification) (type : FieldType) :
    (planner.rebuildColumn table m type).Complete := by
  rw [rebuildColumn, Plan.complete_append, Plan.complete_append]
  exact ⟨⟨rfl, Plan.complete_execute _⟩, Plan.complete_sequence_warn _ _⟩

theorem warnings_rebuildColumn (table : Table) (m : FieldModification) (type : FieldType) :
    (planner.rebuildColumn table m type).warnings =
      (((table.field? m.name).map (rebuildLosses m)).getD []).map
        (.rebuildDropped table.name m.name) := by
  rw [rebuildColumn, Plan.warnings_append, Plan.warnings_append, Plan.warnings_sequence_warn,
    Plan.warnings_execute]
  all_goals rfl

section Embedded

variable (embedded : planner.dialect.isEmbedded = true)

include embedded

/-- What cannot be changed in place is skipped with a warning. -/
theorem alterConstraints_eq (table : String) (m : FieldModification) :
    planner.alterConstraints table m =
      onChange (fun c => .warn (.nullabilitySkipped table m.name c.after)) m.nullable ++
        onChange (fun _ => .warn (.defaultSkipped table m.name)) m.default ++
        onChange (fun _ => .warn (.foreignKeySkipped table m.name)) m.foreignKey := by
  have nullable : planner.alterNullable table m.name =
      fun c => .warn (.nullabilitySkipped table m.name c.after) := by
    funext c
    simp [alterNullable, Dialect.supportsAlterColumnConstraints, embedded]
  have default : planner.alterDefault table m.name =
      fun _ => .warn (.defaultSkipped table m.name) := by
    funext c
    simp [alterDefault, Dialect.supportsAlterColumnConstraints, embedded]
  have foreignKey : planner.alterForeignKey table m.name =
      fun _ => .warn (.foreignKeySkipped table m.name) := by
    funext c
    simp [alterForeignKey, Dialect.usesSeparateForeignKeys, embedded]
  rw [alterConstraints, nullable, default, foreignKey]

theorem statements_alterConstraints (table : String) (m : FieldModification) :
    (planner.alterConstraints table m).statements = [] := by
  rw [alterConstraints_eq embedded, Plan.statements_append, Plan.statements_append,
    statements_onChange_warn, statements_onChange_warn, statements_onChange_warn]
  · rfl
  · exact complete_onChange_warn _ _
  · exact Plan.complete_append.mpr ⟨complete_onChange_warn _ _, complete_onChange_warn _ _⟩

theorem warnings_alterConstraints (table : String) (m : FieldModification) :
    (planner.alterConstraints table m).warnings =
      (m.nullable.map fun c => .nullabilitySkipped table m.name c.after).toList ++
        (m.default.map fun _ => .defaultSkipped table m.name).toList ++
        (m.foreignKey.map fun _ => .foreignKeySkipped table m.name).toList := by
  rw [alterConstraints_eq embedded, Plan.warnings_append, Plan.warnings_append,
    warnings_onChange_warn, warnings_onChange_warn, warnings_onChange_warn]
  · exact complete_onChange_warn _ _
  · exact Plan.complete_append.mpr ⟨complete_onChange_warn _ _, complete_onChange_warn _ _⟩

/-- A column is rebuilt when the type of its field changes, and left as it is otherwise. -/
theorem statements_modifyField_of_embedded (declaration : Table) (m : FieldModification) :
    (planner.modifyField declaration m).statements =
      (m.type.map fun change =>
        (planner.rebuildColumn declaration m change.after).statements).getD [] := by
  cases changed : m.type with
  | none =>
    have complete : (planner.alterConstraints declaration.name m).Complete := by
      rw [alterConstraints_eq embedded]
      simp only [Plan.complete_append, complete_onChange_warn, and_self]
    rw [modifyField, changed, Plan.statements_append complete, statements_onChange_warn,
      statements_alterConstraints embedded]
    rfl
  | some change =>
    rw [modifyField, changed]
    simp only [Dialect.supportsAlterColumnType, embedded, Bool.not_true]
    rw [if_neg (by simp), Plan.statements_append (complete_rebuildColumn _ _ _),
      statements_onChange_warn, List.append_nil]
    rfl

end Embedded

theorem rebuiltDefault_declared (field : Field) :
    (planner.rebuiltDefault field).map RenderedDefault.declared =
      (planner.dialect.rebuiltColumn field).default := by
  rcases field with ⟨name, type, nullable, primaryKey, default, foreignKey⟩
  cases default with
  | none => rfl
  | some value => cases value <;> rfl

theorem ofColumn_rebuilt (name : String) (field : Field) :
    ColumnState.ofColumn {
        name := name
        type := planner.dialect.columnType field.type
        default := planner.rebuiltDefault field } =
      planner.dialect.rebuiltColumn field := by
  simp [ColumnState.ofColumn, rebuiltDefault_declared, Dialect.rebuiltColumn]

/-- Changing a field settles its column in a table that has the columns of the target. -/
theorem run_modifyField_columns {columns : Columns} {lost : List String}
    (apart : ∀ key, after.foreignKey = some key → key.table ∉ lost)
    (embedded : planner.dialect.isEmbedded = true → lost = [])
    (found : declaration.field? after.name = some after)
    (names : ∀ name, (columns name).isSome ↔ (declaration.field? name).isSome)
    (present :
      columns after.name = some ((ColumnState.ofField planner.dialect before).release lost))
    (complete : (planner.modifyField declaration (.between before after)).Complete) :
    columns.run (planner.modifyField declaration (.between before after)).statements =
      some (Function.update columns after.name
        (some (planner.dialect.settledColumn before after))) := by
  cases kind : planner.dialect.isEmbedded with
  | false =>
    refine Columns.run_of_column (fun s member => ?_) present (run_modifyField kind apart complete)
    exact (all_modifyField kind _ s member).2
  | true =>
    obtain rfl := embedded kind
    rw [statements_modifyField_of_embedded kind, Dialect.settledColumn, if_pos kind]
    by_cases same : before.type = after.type
    · rw [FieldModification.between_type_of_eq same, if_pos same,
        ← ColumnState.release_nil (.ofField planner.dialect before), ← present,
        Function.update_eq_self]
      rfl
    · have free : columns (rebuildName declaration after.name) = none := by
        simpa [field?_rebuildName] using names (rebuildName declaration after.name)
      rw [FieldModification.between_type_of_ne same, if_neg same, Option.map_some, Option.getD_some,
        statements_rebuildColumn, ← ofColumn_rebuilt (rebuildName declaration after.name) after]
      simp only [FieldModification.between, found, Option.bind_some]
      exact Columns.run_replace declaration.name _ _ present free

end Planner

end SchemaDelta
