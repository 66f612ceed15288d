import SchemaDelta.Proofs.Settlement

/-!
# What a migration executes

Where columns are altered in place, every statement of a migration has its occasion in a difference
between the two snapshots: a table or a field that one of them lacks, or an attribute in which two
fields of one name differ.
-/

namespace SchemaDelta

namespace Planner

variable {planner : Planner} {before after : Snapshot}

/-- What the snapshots differ in, so that the statement is executed. -/
def Occasion (planner : Planner) (before after : Snapshot) : Statement → Prop
  | .dropTable table cascade =>
    (before.table? table).isSome ∧ after.table? table = none ∧
      cascade = planner.dialect.dropsCascade planner.config.dropCascade
  | .createTable table columns =>
    before.table? table = none ∧ ∃ declared, after.table? table = some declared ∧
      columns.map Column.name = declared.fields.map Field.name
  | .addColumn table column =>
    (before.table? table).isSome ∧ before.field? table column.name = none ∧
      (after.field? table column.name).isSome
  | .dropColumn table column =>
    (after.table? table).isSome ∧ (before.field? table column).isSome ∧
      after.field? table column = none
  | .alterColumnType table column type => ∃ old field,
      before.field? table column = some old ∧ after.field? table column = some field ∧
        old.type ≠ field.type ∧ type = planner.dialect.columnType field.type
  | .alterNullable table column nullable => ∃ old field,
      before.field? table column = some old ∧ after.field? table column = some field ∧
        old.nullable ≠ field.nullable ∧ nullable = field.nullable
  | .setDefault table column default => ∃ old field,
      before.field? table column = some old ∧ after.field? table column = some field ∧
        (old.default == field.default) = false ∧ field.default = some default.declared
  | .dropDefault table column => ∃ old field,
      before.field? table column = some old ∧ after.field? table column = some field ∧
        (old.default == field.default) = false ∧ field.default = none
  | .addForeignKey table column key =>
    after.foreignKey? table column = some key ∧ before.foreignKey? table column ≠ some key
  | .dropForeignKey table column =>
    (after.table? table).isSome ∧ ∃ key, before.foreignKey? table column = some key ∧
      after.foreignKey? table column ≠ some key
  | .enableRowSecurity table => table ∈ after.tableNames
  | .dropPolicy table _ => table ∈ after.tableNames
  | .createPolicy table _ _ => table ∈ after.tableNames
  | .renameColumn _ _ _ => False
  | .copyCast _ _ _ _ => False

section Parts

variable {table : String}

theorem occasion_addField {field : Field} (common : (before.table? table).isSome)
    (new : before.field? table field.name = none)
    (declared : after.field? table field.name = some field) :
    (planner.addField table field).All (planner.Occasion before after) := by
  refine Plan.all_ofResult fun column made => ?_
  obtain ⟨named, -⟩ := column_spec made
  refine Plan.all_append ?column (all_addConstraint_of fun key keyed => ⟨?declared, ?differs⟩)
  case column => simp [Occasion, named, common, new, declared]
  case declared => rw [Snapshot.foreignKey?_of_field? declared, keyed]
  case differs => simp [Snapshot.foreignKey?_of_field?_eq_none new]

theorem occasion_removeField {old : Field} (common : (after.table? table).isSome)
    (gone : after.field? table old.name = none)
    (declared : before.field? table old.name = some old) :
    (planner.removeField table old).All (planner.Occasion before after) := by
  refine Plan.all_append (all_dropConstraint_of fun key keyed =>
    ⟨common, key, ?declared, ?differs⟩) ?column
  case declared => rw [Snapshot.foreignKey?_of_field? declared, keyed]
  case differs => simp [Snapshot.foreignKey?_of_field?_eq_none gone]
  case column => simp [Occasion, common, gone, declared]

section Modified

variable {old field : Field} (declaredOld : before.field? table field.name = some old)
  (declared : after.field? table field.name = some field)

include declaredOld declared

theorem occasion_alterNullable :
    (onChange (planner.alterNullable table field.name)
      (Change.between old.nullable field.nullable)).All (planner.Occasion before after) := by
  cases changed : Change.between old.nullable field.nullable with
  | none => exact Plan.all_nothing
  | some change =>
    obtain ⟨differ, rfl⟩ := Change.between_eq_some_iff.mp changed
    simp only [onChange, alterNullable]
    split
    · refine Plan.all_execute.mpr (List.forall_mem_singleton.mpr ?_)
      exact ⟨old, field, declaredOld, declared, by simpa using differ, rfl⟩
    · exact Plan.all_warn _

theorem occasion_alterDefault :
    (onChange (planner.alterDefault table field.name)
      (Change.between old.default field.default)).All (planner.Occasion before after) := by
  cases changed : Change.between old.default field.default with
  | none => exact Plan.all_nothing
  | some change =>
    obtain ⟨differ, rfl⟩ := Change.between_eq_some_iff.mp changed
    simp only [onChange, alterDefault]
    split
    · split
      · next value present =>
        refine Plan.all_ofResult fun rendered made => ?_
        refine Plan.all_execute.mpr (List.forall_mem_singleton.mpr ?_)
        exact ⟨old, field, declaredOld, declared, differ,
          declared_of_renderDefault made ▸ present⟩
      · next absent =>
        refine Plan.all_execute.mpr (List.forall_mem_singleton.mpr ?_)
        exact ⟨old, field, declaredOld, declared, differ, absent⟩
    · exact Plan.all_warn _

theorem occasion_alterForeignKey :
    (onChange (planner.alterForeignKey table field.name)
      (Change.between old.foreignKey field.foreignKey)).All (planner.Occasion before after) := by
  have held := Snapshot.foreignKey?_of_field? declaredOld
  have wanted := Snapshot.foreignKey?_of_field? declared
  cases changed : Change.between old.foreignKey field.foreignKey with
  | none => exact Plan.all_nothing
  | some change =>
    obtain ⟨differ, rfl⟩ := Change.between_eq_some_iff.mp changed
    have differ : old.foreignKey ≠ field.foreignKey := by simpa using differ
    simp only [onChange, alterForeignKey]
    split
    · refine Plan.all_append (all_dropConstraint_of fun key keyed => ?dropped)
        (all_addConstraint_of fun key keyed => ?added)
      case dropped =>
        refine ⟨Snapshot.table?_isSome_of_field? declared, key, held.trans keyed, ?_⟩
        rw [wanted, ← keyed]
        exact differ.symm
      case added =>
        refine ⟨wanted.trans keyed, ?_⟩
        rw [held, ← keyed]
        exact differ
    · exact Plan.all_warn _

theorem occasion_modifyField (inPlace : planner.dialect.isEmbedded = false) {declaration : Table}
    (named : declaration.name = table) :
    (planner.modifyField declaration (.between old field)).All
      (planner.Occasion before after) := by
  subst named
  have constraints : (planner.alterConstraints declaration.name (.between old field)).All
      (planner.Occasion before after) :=
    Plan.all_append (Plan.all_append (occasion_alterNullable declaredOld declared)
      (occasion_alterDefault declaredOld declared)) (occasion_alterForeignKey declaredOld declared)
  refine Plan.all_append ?_ (all_onChange fun change => Plan.all_warn _)
  by_cases same : old.type = field.type
  · rw [FieldModification.between_type_of_eq same]
    exact constraints
  · rw [FieldModification.between_type_of_ne same]
    simp only [Dialect.supportsAlterColumnType, inPlace, Bool.not_false, if_true]
    refine Plan.all_append (Plan.all_execute.mpr (List.forall_mem_singleton.mpr ?_)) constraints
    exact ⟨old, field, declaredOld, declared, same, rfl⟩

end Modified

end Parts

theorem occasion_of_keepsColumns {table : String} {s : Statement} (keeps : KeepsColumns table s)
    (declared : table ∈ after.tableNames) : planner.Occasion before after s := by
  rcases keepsColumns_cases keeps with rfl | ⟨operation, rfl⟩ | ⟨operation, predicate, rfl⟩
  · exact declared
  · exact declared
  · exact declared

section Tables

theorem occasion_createTables (validAfter : after.Valid) :
    (planner.createTables (Diff.between before after).added).All
      (planner.Occasion before after) := by
  refine Plan.all_append (Plan.all_sequence ?creates) (Plan.all_sequence ?constraints)
  case creates =>
    refine List.forall_mem_map.mpr fun table added => Plan.all_ofResult fun columns made => ?_
    obtain ⟨member, new⟩ := Diff.mem_added.mp added
    refine Plan.all_execute.mpr (List.forall_mem_singleton.mpr ⟨new, table, ?_, ?_⟩)
    · exact validAfter.table?_eq_some_iff.mpr ⟨member, rfl⟩
    · exact (ofList_columns made).1
  case constraints =>
    refine List.forall_mem_map.mpr fun table added => Plan.all_sequence ?_
    obtain ⟨member, new⟩ := Diff.mem_added.mp added
    refine List.forall_mem_map.mpr fun field declared => ?_
    refine all_addConstraint_of fun key keyed => ⟨?_, ?_⟩
    · rw [Snapshot.foreignKey?_of_field? (validAfter.field?_of_mem member declared), keyed]
    · simp [Snapshot.foreignKey?, new]

variable (validBefore : before.Valid) (validAfter : after.Valid) (target : planner.target = after)
  (inPlace : planner.dialect.isEmbedded = false)

include validBefore validAfter target inPlace

theorem occasion_modifyTable {old table : Table}
    (member : table ∈ after.tables) (foundOld : before.table? table.name = some old) :
    (planner.modifyTable (.between old table)).All (planner.Occasion before after) := by
  have found : after.table? table.name = some table :=
    validAfter.table?_eq_some_iff.mpr ⟨member, rfl⟩
  have distinctOld := validBefore.fieldsDistinct old (Snapshot.mem_of_table? foundOld)
  rw [modifyTable, target, TableModification.between_table, found]
  refine Plan.all_append (Plan.all_append (Plan.all_sequence ?added) (Plan.all_sequence ?removed))
    (Plan.all_sequence ?modified)
  case added =>
    refine List.forall_mem_map.mpr fun field added => ?_
    obtain ⟨declared, new⟩ := TableModification.mem_fieldsAdded.mp added
    refine occasion_addField (by simp [foundOld]) ?_ (validAfter.field?_of_mem member declared)
    rw [Snapshot.field?_of_table? foundOld, new]
  case removed =>
    refine List.forall_mem_map.mpr fun field removed => ?_
    obtain ⟨declared, gone⟩ := TableModification.mem_fieldsRemoved.mp removed
    refine occasion_removeField (by simp [found]) ?_ ?_
    · rw [Snapshot.field?_of_table? found, gone]
    · rw [Snapshot.field?_of_table? foundOld]
      exact (Table.field?_eq_some_iff distinctOld).mpr ⟨declared, rfl⟩
  case modified =>
    refine List.forall_mem_map.mpr fun m modified => ?_
    obtain ⟨field, declared, previous, foundPrevious, -, rfl⟩ :=
      (TableModification.mem_fieldsModified distinctOld).mp modified
    refine occasion_modifyField ?_ (validAfter.field?_of_mem member declared) inPlace rfl
    rw [Snapshot.field?_of_table? foundOld, foundPrevious]

/-- Every statement of a migration has its occasion. -/
theorem occasion_carryOut :
    (planner.carryOut (.between before after)).All (planner.Occasion before after) := by
  refine Plan.all_append (Plan.all_append (Plan.all_append (Plan.all_sequence ?removed)
    (occasion_createTables validAfter)) (Plan.all_sequence ?modified)) ?policies
  case removed =>
    refine List.forall_mem_map.mpr fun table removed => ?_
    obtain ⟨declared, gone⟩ := Diff.mem_removed.mp removed
    refine Plan.all_execute.mpr (List.forall_mem_singleton.mpr ⟨?_, gone, rfl⟩)
    simp [validBefore.table?_eq_some_iff.mpr ⟨declared, rfl⟩]
  case modified =>
    refine List.forall_mem_map.mpr fun m modified => ?_
    obtain ⟨table, member, old, foundOld, -, rfl⟩ :=
      (Diff.mem_modified validBefore.tablesDistinct).mp modified
    exact occasion_modifyTable validBefore validAfter target inPlace member foundOld
  case policies =>
    intro s executed
    obtain ⟨change, member, keeps⟩ := all_policies _ s executed
    exact occasion_of_keepsColumns keeps
      (Diff.table_of_mem_access validBefore.tablesDistinct member)

end Tables

section Executed

theorem statements_dropConstraint (inPlace : planner.dialect.isEmbedded = false)
    (table column : String) (key : ForeignKey) :
    (planner.dropConstraint table column (some key)).statements =
      [.dropForeignKey table column] := by
  simp [dropConstraint, Dialect.usesSeparateForeignKeys, inPlace]

/-- The constraint of a foreign key that changes is dropped. -/
theorem dropForeignKey_mem_modifyField (inPlace : planner.dialect.isEmbedded = false)
    {declaration : Table} {old field : Field} {key : ForeignKey} (keyed : old.foreignKey = some key)
    (differ : old.foreignKey ≠ field.foreignKey)
    (complete : (planner.modifyField declaration (.between old field)).Complete) :
    .dropForeignKey declaration.name field.name ∈
      (planner.modifyField declaration (.between old field)).statements := by
  obtain ⟨statements, altered⟩ := statements_modifyField_of_inPlace inPlace complete
  obtain ⟨first, -⟩ := Plan.complete_append.mp altered
  rw [statements, alterConstraints, Plan.statements_append first]
  refine List.mem_append_right _ (List.mem_append_right _ ?_)
  have changed : (FieldModification.between old field).foreignKey =
      some ⟨old.foreignKey, field.foreignKey⟩ :=
    Change.between_of_ne differ
  simp only [changed, onChange, alterForeignKey, Dialect.usesSeparateForeignKeys, inPlace, keyed]
  simp [Plan.statements_append (complete_dropConstraint _), statements_dropConstraint inPlace]

/-- The flag that allows nulls is set to its new value where it changes. -/
theorem alterNullable_mem_modifyField (inPlace : planner.dialect.isEmbedded = false)
    {declaration : Table} {old field : Field} (differ : old.nullable ≠ field.nullable)
    (complete : (planner.modifyField declaration (.between old field)).Complete) :
    .alterNullable declaration.name field.name field.nullable ∈
      (planner.modifyField declaration (.between old field)).statements := by
  obtain ⟨statements, altered⟩ := statements_modifyField_of_inPlace inPlace complete
  obtain ⟨first, -⟩ := Plan.complete_append.mp altered
  obtain ⟨nullable, -⟩ := Plan.complete_append.mp first
  rw [statements, alterConstraints, Plan.statements_append first, Plan.statements_append nullable]
  refine List.mem_append_right _ (List.mem_append_left _ (List.mem_append_left _ ?_))
  have changed : (FieldModification.between old field).nullable =
      some ⟨old.nullable, field.nullable⟩ :=
    Change.between_of_ne differ
  simp [changed, onChange, alterNullable, Dialect.supportsAlterColumnConstraints, inPlace]

variable {s : Statement} {table : String}
  (complete : (planner.carryOut (.between before after)).Complete)

include complete

/-- A removed table is dropped. -/
theorem dropTable_mem (validBefore : before.Valid) (declared : (before.table? table).isSome)
    (gone : after.table? table = none) :
    .dropTable table (planner.dialect.dropsCascade planner.config.dropCascade) ∈
      (planner.carryOut (.between before after)).statements := by
  obtain ⟨old, found⟩ := Option.isSome_iff_exists.mp declared
  obtain ⟨member, rfl⟩ := validBefore.table?_eq_some_iff.mp found
  have removed := Diff.mem_removed.mpr ⟨member, gone⟩
  rw [statements_carryOut complete]
  refine List.mem_append_left _ (List.mem_append_left _ (List.mem_append_left _ ?_))
  exact List.mem_flatMap.mpr ⟨old, removed, by simp [dropTable]⟩

/-- A new table is created. -/
theorem createTable_mem (validAfter : after.Valid) (new : before.table? table = none)
    (declared : (after.table? table).isSome) :
    ∃ columns, .createTable table columns ∈
      (planner.carryOut (.between before after)).statements := by
  obtain ⟨declaration, found⟩ := Option.isSome_iff_exists.mp declared
  obtain ⟨member, rfl⟩ := validAfter.table?_eq_some_iff.mp found
  have added := Diff.mem_added.mpr ⟨member, new⟩
  have creates := (complete_carryOut_iff.mp complete).1
  obtain ⟨columns, -, create⟩ := exists_statements_createTable (creates _ added)
  refine ⟨columns, ?_⟩
  rw [statements_carryOut complete, statements_createTables (complete_createTables_iff.mpr creates)]
  refine List.mem_append_left _ (List.mem_append_left _
    (List.mem_append_right _ (List.mem_append_left _ ?_)))
  exact List.mem_flatMap.mpr ⟨declaration, added, create ▸ List.mem_cons_self⟩

/-- The steps for a table with changes are part of the migration. -/
theorem modifyTable_of_changed (validBefore : before.Valid) {old declaration : Table}
    (member : declaration ∈ after.tables) (foundOld : before.table? declaration.name = some old)
    (changed : (TableModification.between old declaration).isEmpty = false) :
    (planner.modifyTable (.between old declaration)).Complete ∧
      ∀ s ∈ (planner.modifyTable (.between old declaration)).statements,
        s ∈ (planner.carryOut (.between before after)).statements := by
  have modified := (Diff.mem_modified validBefore.tablesDistinct).mpr
    ⟨declaration, member, old, foundOld, changed, rfl⟩
  refine ⟨(complete_carryOut_iff.mp complete).2.1 _ modified, fun s executed => ?_⟩
  rw [statements_carryOut complete]
  refine List.mem_append_left _ (List.mem_append_right _ ?_)
  exact List.mem_flatMap.mpr ⟨_, modified, executed⟩

variable (validBefore : before.Valid) (validAfter : after.Valid) (target : planner.target = after)

include validBefore validAfter target

/-- A new field of a common table is added, with the column that it calls for. -/
theorem addColumn_mem_of_field? {name : String} {field : Field}
    (common : (before.table? table).isSome) (new : before.field? table name = none)
    (found : after.field? table name = some field) :
    ∃ column, planner.column table field = .ok column ∧
      .addColumn table column ∈ (planner.carryOut (.between before after)).statements := by
  obtain ⟨old, foundOld⟩ := Option.isSome_iff_exists.mp common
  obtain ⟨declaration, member, rfl, fieldMember, rfl⟩ := validAfter.exists_of_field? found
  have foundTable : planner.target.table? declaration.name = some declaration :=
    target ▸ validAfter.table?_eq_some_iff.mpr ⟨member, rfl⟩
  rw [Snapshot.field?_of_table? foundOld] at new
  have added := TableModification.mem_fieldsAdded.mpr ⟨fieldMember, new⟩
  obtain ⟨modifies, executed⟩ := modifyTable_of_changed complete validBefore member foundOld
    (by simp [TableModification.isEmpty, List.ne_nil_of_mem added])
  have adds := ((complete_modifyTable_iff foundTable).mp modifies).1 field added
  obtain ⟨column, made, -⟩ := Plan.complete_ofResult.mp adds
  rw [TableModification.between_table] at made
  refine ⟨column, made, executed _ ?_⟩
  rw [statements_modifyTable foundTable modifies]
  refine List.mem_append_left _ (List.mem_append_left _ ?_)
  refine List.mem_flatMap.mpr ⟨field, added, ?_⟩
  rw [TableModification.between_table, addField, made, Plan.ofResult_ok,
    Plan.statements_append (Plan.complete_execute _)]
  simp

theorem addColumn_mem {name : String} (common : (before.table? table).isSome)
    (new : before.field? table name = none) (declared : (after.field? table name).isSome) :
    ∃ column, column.name = name ∧
      .addColumn table column ∈ (planner.carryOut (.between before after)).statements := by
  obtain ⟨field, found⟩ := Option.isSome_iff_exists.mp declared
  obtain ⟨column, made, member⟩ :=
    addColumn_mem_of_field? complete validBefore validAfter target common new found
  exact ⟨column, (column_spec made).1.trans (Snapshot.name_of_field? found), member⟩

/-- The steps for a field with changes are part of the migration. -/
theorem modifyField_of_changed {name : String} {old field : Field}
    (foundOld : before.field? table name = some old) (found : after.field? table name = some field)
    (changed : (FieldModification.between old field).isEmpty = false) :
    ∃ declaration : Table, declaration.name = table ∧ field.name = name ∧
      (planner.modifyField declaration (.between old field)).Complete ∧
      ∀ s ∈ (planner.modifyField declaration (.between old field)).statements,
        s ∈ (planner.carryOut (.between before after)).statements := by
  obtain ⟨declaration, member, rfl, fieldMember, rfl⟩ := validAfter.exists_of_field? found
  obtain ⟨oldTable, foundTable, foundOld⟩ := Option.bind_eq_some_iff.mp foundOld
  have distinctOld := validBefore.fieldsDistinct oldTable (Snapshot.mem_of_table? foundTable)
  have modified : FieldModification.between old field ∈
      (TableModification.between oldTable declaration).fieldsModified :=
    (TableModification.mem_fieldsModified distinctOld).mpr
      ⟨field, fieldMember, old, foundOld, changed, rfl⟩
  have foundTarget : planner.target.table? declaration.name = some declaration :=
    target ▸ validAfter.table?_eq_some_iff.mpr ⟨member, rfl⟩
  obtain ⟨modifies, executed⟩ := modifyTable_of_changed complete validBefore member foundTable
    (by simp [TableModification.isEmpty, List.ne_nil_of_mem modified])
  have changes := ((complete_modifyTable_iff foundTarget).mp modifies).2.2 _ modified
  refine ⟨declaration, rfl, rfl, changes, fun s among => executed s ?_⟩
  rw [statements_modifyTable foundTarget modifies]
  exact List.mem_append_right _ (List.mem_flatMap.mpr ⟨_, modified, among⟩)

/-- The constraint of an obsolete foreign key is dropped, unless its table is. -/
theorem dropForeignKey_mem (inPlace : planner.dialect.isEmbedded = false) {name : String}
    {key : ForeignKey} (stays : (after.table? table).isSome)
    (held : before.foreignKey? table name = some key)
    (obsolete : after.foreignKey? table name ≠ some key) :
    .dropForeignKey table name ∈ (planner.carryOut (.between before after)).statements := by
  obtain ⟨previous, foundPrevious, keyed⟩ := Option.bind_eq_some_iff.mp held
  cases found : after.field? table name with
  | none =>
    obtain ⟨declaration, foundTable⟩ := Option.isSome_iff_exists.mp stays
    obtain ⟨member, rfl⟩ := validAfter.table?_eq_some_iff.mp foundTable
    obtain ⟨old, oldMember, named, oldFieldMember, rfl⟩ :=
      validBefore.exists_of_field? foundPrevious
    have foundOld := validBefore.table?_eq_some_iff.mpr ⟨oldMember, named⟩
    rw [Snapshot.field?_of_table? foundTable] at found
    rw [← target] at foundTable
    have removed := TableModification.mem_fieldsRemoved.mpr ⟨oldFieldMember, found⟩
    obtain ⟨modifies, executed⟩ := modifyTable_of_changed complete validBefore member foundOld
      (by simp [TableModification.isEmpty, List.ne_nil_of_mem removed])
    refine executed _ ?_
    rw [statements_modifyTable foundTable modifies]
    refine List.mem_append_left _ (List.mem_append_right _ ?_)
    refine List.mem_flatMap.mpr ⟨previous, removed, ?_⟩
    rw [removeField, Plan.statements_append (complete_dropConstraint _), keyed,
      statements_dropConstraint inPlace]
    simp
  | some field =>
    have differ : previous.foreignKey ≠ field.foreignKey := by
      intro same
      refine obsolete ?_
      rw [Snapshot.foreignKey?_of_field? found, ← same, keyed]
    have changed : (FieldModification.between previous field).isEmpty = false := by
      rw [← Bool.not_eq_true, FieldModification.isEmpty_between]
      exact fun unchanged => differ unchanged.2.2.2.2
    obtain ⟨declaration, rfl, rfl, changes, executed⟩ := modifyField_of_changed complete validBefore
      validAfter target foundPrevious found changed
    exact executed _ (dropForeignKey_mem_modifyField inPlace keyed differ changes)

/-- A common field whose nullability changes has its column altered. -/
theorem alterNullable_mem (inPlace : planner.dialect.isEmbedded = false) {name : String}
    {old field : Field} (foundOld : before.field? table name = some old)
    (found : after.field? table name = some field) (differ : old.nullable ≠ field.nullable) :
    .alterNullable table name field.nullable ∈
      (planner.carryOut (.between before after)).statements := by
  have changed : (FieldModification.between old field).isEmpty = false := by
    rw [← Bool.not_eq_true, FieldModification.isEmpty_between]
    exact fun unchanged => differ unchanged.2.1
  obtain ⟨declaration, rfl, rfl, changes, executed⟩ := modifyField_of_changed complete validBefore
    validAfter target foundOld found changed
  exact executed _ (alterNullable_mem_modifyField inPlace differ changes)

end Executed

end Planner

end SchemaDelta
