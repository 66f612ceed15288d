import SchemaDelta.Proofs.Settlement.Rebuild

/-!
# Tables after a migration

The steps for a modified table settle its columns: those of new fields are added, those of removed
fields dropped, and those of modified fields changed one by one. What no step is about was settled
before.
-/

namespace SchemaDelta

/-- What a migration makes of the columns of a table. A field that was not there before gets the
column that it calls for. -/
def Dialect.settledColumns (dialect : Dialect) (before : Option Table) (after : Table) : Columns :=
  fun name => (after.field? name).map fun field =>
    match before.bind (·.field? name) with
    | none => .ofField dialect field
    | some old => dialect.settledColumn old field

namespace Planner

variable {planner : Planner} {table : String} {field : Field}

theorem declared_of_fieldDefault {default : Option RenderedDefault}
    (made : planner.fieldDefault table field = .ok default) :
    default.map RenderedDefault.declared = field.default := by
  unfold fieldDefault at made
  cases declared : field.default with
  | none =>
    rw [declared] at made
    cases made
    rfl
  | some value =>
    cases rendered : planner.renderDefault table field.name value with
    | error e =>
      rw [declared] at made
      simp only [rendered] at made
      cases made
    | ok default =>
      rw [declared] at made
      simp only [rendered] at made
      cases made
      exact congrArg some (declared_of_renderDefault rendered)

/-- The column of a field declares what the field calls for, with no foreign key where that is a
constraint of its own. -/
theorem column_spec {column : Column} (made : planner.column table field = .ok column) :
    column.name = field.name ∧ ColumnState.ofColumn column =
      { ColumnState.ofField planner.dialect field with
        foreignKey := planner.dialect.inlineReference field } := by
  unfold Planner.column at made
  cases default : planner.fieldDefault table field with
  | error e =>
    rw [default] at made
    cases made
  | ok rendered =>
    rw [default] at made
    cases made
    refine ⟨rfl, ?_⟩
    rcases field with ⟨name, type, nullable, primaryKey, _, foreignKey⟩
    cases primaryKey <;> cases nullable <;>
      simp [ColumnState.ofColumn, ColumnState.ofField, Dialect.column, Field.keyClause,
        declared_of_fieldDefault default]

theorem run_addConstraint (table : String) (field : Field) :
    ({ ColumnState.ofField planner.dialect field with
        foreignKey := planner.dialect.inlineReference field } : ColumnState).run
        (planner.addConstraint table field.name field.foreignKey).statements =
      some (ColumnState.ofField planner.dialect field) := by
  rcases field with ⟨name, type, nullable, primaryKey, default, foreignKey⟩
  cases foreignKey with
  | none => cases embedded : planner.dialect.isEmbedded <;> 
      simp [addConstraint, ColumnState.run, ColumnState.ofField, Dialect.inlineReference]
  | some key =>
    cases embedded : planner.dialect.isEmbedded <;> 
      simp [addConstraint, Dialect.usesSeparateForeignKeys, embedded, ColumnState.run,
        ColumnState.alter, ColumnState.ofField, Dialect.inlineReference]

theorem run_addField {columns : Columns} (free : columns field.name = none)
    (complete : (planner.addField table field).Complete) :
    columns.run (planner.addField table field).statements =
      some (Function.update columns field.name (some (.ofField planner.dialect field))) := by
  obtain ⟨column, made, -⟩ := Plan.complete_ofResult.mp complete
  obtain ⟨named, declared⟩ := column_spec made
  rw [addField, made, Plan.ofResult_ok, Plan.statements_append (Plan.complete_execute _),
    Plan.statements_execute, Columns.run_append]
  have added : columns.run [.addColumn table column] =
      some (Function.update columns field.name (some (.ofColumn column))) := by
    simp [Columns.run, Columns.alter, named, free]
  rw [added, Option.bind_some,
    Columns.run_of_column (fun s member => (all_addConstraint _ s member).2)
      (Function.update_self ..) (declared ▸ run_addConstraint table field),
    Function.update_idem]

theorem run_removeField {columns : Columns} {state : ColumnState}
    (present : columns field.name = some state) :
    columns.run (planner.removeField table field).statements =
      some (Function.update columns field.name none) := by
  have dropped : ∃ final, state.run
      (planner.dropConstraint table field.name field.foreignKey).statements = some final := by
    cases field.foreignKey with
    | none => exact ⟨state, rfl⟩
    | some key =>
      cases embedded : planner.dialect.isEmbedded <;>
        simp [dropConstraint, Dialect.usesSeparateForeignKeys, embedded, ColumnState.run,
          ColumnState.alter]
  rcases dropped with ⟨final, dropped⟩
  rw [removeField, Plan.statements_append (complete_dropConstraint _), Columns.run_append,
    Columns.run_of_column (fun s member => (all_dropConstraint _ s member).2) present dropped]
  simp [Columns.run, Columns.alter]

theorem all_addField : (planner.addField table field).All (Statement.OnTable table) := by
  refine Plan.all_ofResult fun column _ => Plan.all_append ?_ fun s member => ?_
  · simp [Statement.OnTable, Statement.alteredTable?, Statement.altersColumns]
  · exact (all_addConstraint _ s member).onTable

theorem all_removeField : (planner.removeField table field).All (Statement.OnTable table) := by
  refine Plan.all_append (fun s member => ?_) ?_
  · exact (all_dropConstraint _ s member).onTable
  · simp [Statement.OnTable, Statement.alteredTable?, Statement.altersColumns]

theorem onTable_modifyField (declaration : Table) (m : FieldModification) :
    (planner.modifyField declaration m).All (Statement.OnTable declaration.name) := by
  cases embedded : planner.dialect.isEmbedded with
  | false => exact fun s member => (all_modifyField embedded m s member).onTable
  | true =>
    refine Plan.all_append ?_ (all_onChange fun change => Plan.all_warn _)
    cases m.type with
    | none => exact fun s member => (all_alterConstraints m s member).onTable
    | some change =>
      simp only [Dialect.supportsAlterColumnType, embedded, Bool.not_true]
      intro s member
      rw [if_neg (by simp), statements_rebuildColumn] at member
      simp only [List.mem_cons, List.not_mem_nil, or_false] at member
      rcases member with rfl | rfl | rfl | rfl <;> exact ⟨rfl, rfl⟩

theorem all_modifyTable (m : TableModification) :
    (planner.modifyTable m).All (Statement.OnTable m.table) := by
  unfold modifyTable
  cases declared : planner.target.table? m.table with
  | none => exact Plan.all_fail _
  | some declaration =>
    refine Plan.all_append (Plan.all_append ?_ ?_) ?_
    · exact Plan.all_sequence (List.forall_mem_map.mpr fun _ _ => all_addField)
    · exact Plan.all_sequence (List.forall_mem_map.mpr fun _ _ => all_removeField)
    · rw [← Snapshot.name_of_table? declared]
      exact Plan.all_sequence (List.forall_mem_map.mpr fun m _ => onTable_modifyField declaration m)

section Modification

variable {m : TableModification} {declaration : Table}
  (declared : planner.target.table? m.table = some declaration)

include declared

theorem complete_modifyTable_iff :
    (planner.modifyTable m).Complete ↔
      (∀ field ∈ m.fieldsAdded, (planner.addField m.table field).Complete) ∧
      (∀ field ∈ m.fieldsRemoved, (planner.removeField m.table field).Complete) ∧
      ∀ m' ∈ m.fieldsModified, (planner.modifyField declaration m').Complete := by
  rw [modifyTable, declared]
  simp only [Plan.complete_append, Plan.complete_sequence_map, and_assoc]

theorem statements_modifyTable (complete : (planner.modifyTable m).Complete) :
    (planner.modifyTable m).statements =
      (m.fieldsAdded.flatMap fun field => (planner.addField m.table field).statements) ++
      (m.fieldsRemoved.flatMap fun field => (planner.removeField m.table field).statements) ++
      (m.fieldsModified.flatMap fun m' => (planner.modifyField declaration m').statements) := by
  obtain ⟨adds, removes, modifies⟩ := (complete_modifyTable_iff declared).mp complete
  rw [modifyTable, declared]
  simp only
  rw [Plan.statements_append, Plan.statements_append, Plan.statements_sequence_map adds,
    Plan.statements_sequence_map removes, Plan.statements_sequence_map modifies]
  all_goals simp only [Plan.complete_append, Plan.complete_sequence_map]
  · exact adds
  · exact ⟨adds, removes⟩

end Modification

section Phases

variable {planner : Planner} {before after : Table} {lost : List String} {columns : Columns}

theorem run_addFields (distinct : (after.fields.map Field.name).Nodup)
    (complete : ∀ field ∈ (TableModification.between before after).fieldsAdded,
      (planner.addField after.name field).Complete) :
    ((Columns.ofTable planner.dialect before).release lost).run
        ((TableModification.between before after).fieldsAdded.flatMap fun field =>
          (planner.addField after.name field).statements) =
      some (overlay ((TableModification.between before after).fieldsAdded.map Field.name)
        (planner.dialect.settledColumns (some before) after)
        ((Columns.ofTable planner.dialect before).release lost)) := by
  refine foldlM_overlay Columns.alter (fun _ => True) _ _ Field.name _ _
    (TableModification.fieldsAdded_distinct distinct) ?_ _ trivial fun _ _ => rfl
  intro field added map _ same
  obtain ⟨member, new⟩ := TableModification.mem_fieldsAdded.mp added
  have goal : planner.dialect.settledColumns (some before) after field.name =
      some (.ofField planner.dialect field) := by
    simp [Dialect.settledColumns, (Table.field?_eq_some_iff distinct).mpr ⟨member, rfl⟩, new]
  rw [Columns.release_ofTable, new, Option.map_none] at same
  rw [goal]
  exact ⟨run_addField same (complete field added), trivial⟩

/-- Between the removal of fields and the changes the columns of the fields that both tables have
are as before, and all others are settled. -/
def betweenColumns (dialect : Dialect) (before after : Table) (lost : List String) : Columns :=
  overlay ((TableModification.between before after).fieldsRemoved.map Field.name)
    (dialect.settledColumns (some before) after)
    (overlay ((TableModification.between before after).fieldsAdded.map Field.name)
      (dialect.settledColumns (some before) after)
      ((Columns.ofTable dialect before).release lost))

theorem run_removeFields (distinct : (before.fields.map Field.name).Nodup) :
    Columns.run
        (overlay ((TableModification.between before after).fieldsAdded.map Field.name)
          (planner.dialect.settledColumns (some before) after)
          ((Columns.ofTable planner.dialect before).release lost))
        ((TableModification.between before after).fieldsRemoved.flatMap fun field =>
          (planner.removeField after.name field).statements) =
      some (betweenColumns planner.dialect before after lost) := by
  refine foldlM_overlay Columns.alter (fun _ => True) _ _ Field.name _ _
    (TableModification.fieldsRemoved_distinct distinct) ?_ _ trivial fun _ _ => rfl
  intro field removed map _ same
  obtain ⟨member, gone⟩ := TableModification.mem_fieldsRemoved.mp removed
  have goal : planner.dialect.settledColumns (some before) after field.name = none := by
    simp [Dialect.settledColumns, gone]
  rw [overlay_of_not_mem, Columns.release_ofTable,
    (Table.field?_eq_some_iff distinct).mpr ⟨member, rfl⟩, Option.map_some] at same
  · rw [goal]
    exact ⟨Planner.run_removeField same, trivial⟩
  · intro added
    exact Table.field?_eq_none_iff.mp gone (TableModification.mem_fieldsAdded_names.mp added).1

theorem betweenColumns_of_common {dialect : Dialect} {name : String}
    (old : (before.field? name).isSome) (new : (after.field? name).isSome) :
    betweenColumns dialect before after lost name =
      (Columns.ofTable dialect before).release lost name := by
  rw [Table.field?_isSome_iff] at old new
  rw [betweenColumns, overlay_of_not_mem, overlay_of_not_mem]
  · simp [TableModification.mem_fieldsAdded_names, -List.mem_map, old]
  · simp [TableModification.mem_fieldsRemoved_names, -List.mem_map, new]

theorem betweenColumns_of_not_common {dialect : Dialect} {name : String}
    (apart : (before.field? name).isSome → after.field? name = none) :
    betweenColumns dialect before after lost name =
      dialect.settledColumns (some before) after name := by
  cases old : before.field? name with
  | some field =>
    have gone := apart (by simp [old])
    refine overlay_of_mem (TableModification.mem_fieldsRemoved_names.mpr ⟨?_, ?_⟩)
    · exact Table.field?_isSome_iff.mp (by simp [old])
    · exact Table.field?_eq_none_iff.mp gone
  | none =>
    have absent := Table.field?_eq_none_iff.mp old
    rw [betweenColumns, overlay_of_not_mem
      (fun removed => absent (TableModification.mem_fieldsRemoved_names.mp removed).1)]
    cases new : after.field? name with
    | some field =>
      refine overlay_of_mem (TableModification.mem_fieldsAdded_names.mpr ⟨?_, absent⟩)
      exact Table.field?_isSome_iff.mp (by simp [new])
    | none =>
      rw [overlay_of_not_mem, Columns.release_ofTable, old]
      · simp [Dialect.settledColumns, new]
      · intro added
        exact Table.field?_eq_none_iff.mp new (TableModification.mem_fieldsAdded_names.mp added).1

theorem betweenColumns_isSome (dialect : Dialect) (before after : Table) (lost : List String)
    (name : String) :
    (betweenColumns dialect before after lost name).isSome ↔ (after.field? name).isSome := by
  by_cases common : (before.field? name).isSome ∧ (after.field? name).isSome
  · rcases common with ⟨old, new⟩
    rw [betweenColumns_of_common old new, Columns.release_ofTable, Option.isSome_map]
    exact iff_of_true old new
  · rw [betweenColumns_of_not_common fun old => by simpa using fun new => common ⟨old, new⟩,
      Dialect.settledColumns, Option.isSome_map]

section Pair

variable (distinct : (after.fields.map Field.name).Nodup)
  (distinctBefore : (before.fields.map Field.name).Nodup)
  (apart : ∀ field ∈ after.fields, ∀ key, field.foreignKey = some key → key.table ∉ lost)

include distinct distinctBefore apart

theorem run_modifyFields (embedded : planner.dialect.isEmbedded = true → lost = [])
    (complete : ∀ m ∈ (TableModification.between before after).fieldsModified,
      (planner.modifyField after m).Complete) :
    (betweenColumns planner.dialect before after lost).run
        ((TableModification.between before after).fieldsModified.flatMap fun m =>
          (planner.modifyField after m).statements) =
      some (overlay
        ((TableModification.between before after).fieldsModified.map FieldModification.name)
        (planner.dialect.settledColumns (some before) after)
        (betweenColumns planner.dialect before after lost)) := by
  refine foldlM_overlay Columns.alter
    (fun map => ∀ name, (map name).isSome ↔ (after.field? name).isSome)
    (betweenColumns planner.dialect before after lost) _
    FieldModification.name _ _ (TableModification.fieldsModified_distinct distinct) ?_ _
    (betweenColumns_isSome _ _ _ _) fun _ _ => rfl
  intro m modified map names same
  obtain ⟨field, member, old, foundOld, -, rfl⟩ :=
    (TableModification.mem_fieldsModified distinctBefore).mp modified
  rw [FieldModification.between_name] at same ⊢
  have found : after.field? field.name = some field :=
    (Table.field?_eq_some_iff distinct).mpr ⟨member, rfl⟩
  have goal : planner.dialect.settledColumns (some before) after field.name =
      some (planner.dialect.settledColumn old field) := by
    simp [Dialect.settledColumns, found, foundOld]
  have present :
      map field.name = some ((ColumnState.ofField planner.dialect old).release lost) := by
    rw [same, betweenColumns_of_common (by simp [foundOld]) (by simp [found]),
      Columns.release_ofTable, foundOld, Option.map_some]
  have ran := run_modifyField_columns (apart field member) embedded found names present
    (complete _ modified)
  refine ⟨goal ▸ ran, fun name => ?_⟩
  rw [goal]
  by_cases same : name = field.name
  · simp [same, found]
  · simpa [same] using names name

/-- What is not modified was settled before the changes. -/
theorem overlay_betweenColumns (dialect : Dialect) :
    overlay ((TableModification.between before after).fieldsModified.map FieldModification.name)
        (dialect.settledColumns (some before) after)
        (betweenColumns dialect before after lost) =
      dialect.settledColumns (some before) after := by
  funext name
  by_cases modified : name ∈
      (TableModification.between before after).fieldsModified.map FieldModification.name
  · exact overlay_of_mem modified
  rw [overlay_of_not_mem modified]
  cases old : before.field? name with
  | none => exact betweenColumns_of_not_common (by simp [old])
  | some field =>
    cases new : after.field? name with
    | none => exact betweenColumns_of_not_common fun _ => new
    | some field' =>
      have unchanged : (FieldModification.between field field').isEmpty = true := by
        by_contra changed
        obtain ⟨member, named⟩ := (Table.field?_eq_some_iff distinct).mp new
        refine modified (List.mem_map.mpr ⟨.between field field', ?_, named⟩)
        exact (TableModification.mem_fieldsModified distinctBefore).mpr
          ⟨field', member, field, named ▸ old, by simpa using changed, rfl⟩
      obtain ⟨-, -, -, -, key⟩ := FieldModification.isEmpty_between.mp unchanged
      rw [betweenColumns_of_common (by simp [old]) (by simp [new]), Columns.release_ofTable, old,
        Option.map_some, ColumnState.release_eq_self, Dialect.settledColumns, new]
      · simp [old, Dialect.settledColumn_of_isEmpty unchanged]
      · intro found held
        exact apart field' (Table.mem_of_field? new) found (key.symm.trans held)

/-- The columns of a table without modifications are settled as they are. -/
theorem release_eq_settledColumns (dialect : Dialect)
    (unchanged : (TableModification.between before after).isEmpty = true) :
    (Columns.ofTable dialect before).release lost = dialect.settledColumns (some before) after := by
  have settled := overlay_betweenColumns distinct distinctBefore apart dialect
  simp only [TableModification.isEmpty, Bool.and_eq_true, List.isEmpty_iff] at unchanged
  rcases unchanged with ⟨⟨⟨added, removed⟩, modified⟩, -⟩
  simpa only [betweenColumns, added, removed, modified, List.map_nil, overlay_nil] using settled

/-- Carrying out the modification of a table settles its columns. -/
theorem run_modifyTable (embedded : planner.dialect.isEmbedded = true → lost = [])
    (declared : planner.target.table? after.name = some after)
    (complete : (planner.modifyTable (.between before after)).Complete) :
    ((Columns.ofTable planner.dialect before).release lost).run
        (planner.modifyTable (.between before after)).statements =
      some (planner.dialect.settledColumns (some before) after) := by
  obtain ⟨adds, -, modifies⟩ := (complete_modifyTable_iff declared).mp complete
  rw [statements_modifyTable declared complete, TableModification.between_table,
    Columns.run_append, Columns.run_append, run_addFields distinct adds, Option.bind_some,
    run_removeFields distinctBefore, Option.bind_some,
    run_modifyFields distinct distinctBefore apart embedded modifies,
    overlay_betweenColumns distinct distinctBefore apart]

end Pair

end Phases

end Planner

end SchemaDelta
