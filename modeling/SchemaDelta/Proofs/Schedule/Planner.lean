import SchemaDelta.Proofs.Schedule

/-!
# Planners keep to the schedule

Where columns are altered in place, the plan for each part of a diff takes place at its moment: a
constraint at one step of a field, a field at its position in the table, a table at its position in
the snapshot. So the statements of a whole migration come in the order of their moments.
-/

namespace SchemaDelta

namespace Planner

variable {planner : Planner} {before after : Snapshot} {start : Moment} {k : Nat}

theorem timed_onChange {α : Type} {first last : Nat} {plan : Change α → Plan}
    {change : Option (Change α)} (each : ∀ c, (plan c).Timed before after start first last) :
    (onChange plan change).Timed before after start first last := by
  cases change with
  | none => exact Plan.timed_nothing
  | some c => exact each c

theorem timed_addConstraint {table column : String} {key : Option ForeignKey}
    (due : ∀ key, Statement.Within before after (start ++ [k]) (.addForeignKey table column key)) :
    (planner.addConstraint table column key).Timed before after start k (k + 1) := by
  cases key with
  | none => exact Plan.timed_nothing
  | some key =>
    simp only [addConstraint]
    split
    · exact Plan.timed_single (due key)
    · exact Plan.timed_nothing

theorem timed_dropConstraint {table column : String} {key : Option ForeignKey}
    (due : Statement.Within before after (start ++ [k]) (.dropForeignKey table column)) :
    (planner.dropConstraint table column key).Timed before after start k (k + 1) := by
  cases key with
  | none => exact Plan.timed_nothing
  | some key =>
    simp only [dropConstraint]
    split
    · exact Plan.timed_single due
    · exact Plan.timed_nothing

theorem timed_dropTable (table : Table) :
    (planner.dropTable table).Timed before after [0, before.tablePosition table.name] 0 1 :=
  Plan.timed_single (by simp [Statement.Within, Statement.moment])

theorem timed_createTable (table : Table) :
    (planner.createTable table).Timed before after [1, after.tablePosition table.name] 0 1 :=
  Plan.timed_ofResult fun _ _ => Plan.timed_single (by simp [Statement.Within, Statement.moment])

section Fields

variable {table : String} {field : Field}

/-- The constraints of a new table. -/
theorem timed_addConstraint_of_new (new : before.table? table = none) :
    (planner.addConstraint table field.name field.foreignKey).Timed before after
      [2, after.tablePosition table, 0, after.fieldPosition table field.name] 0 1 :=
  timed_addConstraint fun _ => by simp [Statement.Within, Statement.moment, new]

theorem timed_addField {old : Table} (common : before.table? table = some old)
    (new : old.field? field.name = none) :
    (planner.addField table field).Timed before after
      [3, after.tablePosition table, 0, after.fieldPosition table field.name] 0 2 := by
  refine Plan.timed_ofResult fun column made => ?_
  obtain ⟨named, -⟩ := column_spec made
  refine Plan.Timed.append 1 (Plan.timed_single ?column) (timed_addConstraint fun key => ?key)
    (by omega) (by omega)
  case column => simp [Statement.Within, Statement.moment, named]
  case key => simp [Statement.Within, Statement.moment, common, Snapshot.field?, new]

theorem timed_removeField (gone : after.field? table field.name = none) :
    (planner.removeField table field).Timed before after
      [3, after.tablePosition table, 1, before.fieldPosition table field.name] 0 2 := by
  refine Plan.Timed.append 1 (timed_dropConstraint ?key) (Plan.timed_single ?column)
    (by omega) (by omega)
  case key => simp [Statement.Within, Statement.moment, gone]
  case column => simp [Statement.Within, Statement.moment]

section Modified

variable {m : FieldModification} (kept : (before.field? table m.name).isSome)
  (stays : (after.field? table m.name).isSome)

include kept stays

theorem timed_alterConstraints :
    (planner.alterConstraints table m).Timed before after
      [3, after.tablePosition table, 2, after.fieldPosition table m.name] 1 5 := by
  obtain ⟨old, foundOld⟩ := Option.isSome_iff_exists.mp kept
  obtain ⟨field, found⟩ := Option.isSome_iff_exists.mp stays
  obtain ⟨oldTable, foundTable, -⟩ := Option.bind_eq_some_iff.mp foundOld
  refine Plan.Timed.append 3 (Plan.Timed.append 2 ?nullable ?default (by omega) (by omega))
    ?foreignKey (by omega) (by omega)
  case nullable =>
    refine timed_onChange fun change => ?_
    unfold alterNullable
    split
    · exact Plan.timed_single (by simp [Statement.Within, Statement.moment])
    · exact Plan.timed_warn _
  case default =>
    refine timed_onChange fun change => ?_
    unfold alterDefault
    split
    · split
      · exact Plan.timed_ofResult fun _ _ =>
          Plan.timed_single (by simp [Statement.Within, Statement.moment])
      · exact Plan.timed_single (by simp [Statement.Within, Statement.moment])
    · exact Plan.timed_warn _
  case foreignKey =>
    refine timed_onChange fun change => ?_
    unfold alterForeignKey
    split
    · refine Plan.Timed.append 4 (timed_dropConstraint ?_) (timed_addConstraint fun key => ?_)
        (by omega) (by omega)
      · simp [Statement.Within, Statement.moment, found]
      · simp [Statement.Within, Statement.moment, foundTable, foundOld]
    · exact Plan.timed_warn _

theorem timed_modifyField (inPlace : planner.dialect.isEmbedded = false) {declaration : Table}
    (named : declaration.name = table) :
    (planner.modifyField declaration m).Timed before after
      [3, after.tablePosition table, 2, after.fieldPosition table m.name] 0 5 := by
  subst named
  have constraints : (planner.alterConstraints declaration.name m).Timed before after
      [3, after.tablePosition declaration.name, 2, after.fieldPosition declaration.name m.name]
      1 5 := timed_alterConstraints kept stays
  refine Plan.Timed.append 5 ?_ (timed_onChange fun change => Plan.timed_warn _) (by omega)
    (by omega)
  cases m.type with
  | none => exact constraints.widen (by omega) (by omega)
  | some change =>
    simp only [Dialect.supportsAlterColumnType, inPlace, Bool.not_false, if_true]
    refine Plan.Timed.append 1 (Plan.timed_single ?_) constraints (by omega) (by omega)
    simp [Statement.Within, Statement.moment]

end Modified

end Fields

/-- The policies of a table: row security, then the drops, then the new policies. -/
theorem timed_policyStatements (change : AccessChange) :
    (Plan.execute (planner.policyStatements change)).Timed before after
      [4, after.tablePosition change.table] 0 3 := by
  have parts : (Plan.execute (planner.policyStatements change)).statements =
      (Plan.execute [.enableRowSecurity change.table] ++
        .sequence (Operation.all.map fun operation =>
          .execute [.dropPolicy change.table operation]) ++
        .sequence (change.changes.map fun rule => .execute [.createPolicy change.table rule.1
          (planner.predicateText change.table rule.1 rule.2.after)])).statements := by
    rw [Plan.statements_append (by simp [Plan.complete_append, Plan.complete_sequence]),
      Plan.statements_append (Plan.complete_execute _), Plan.statements_sequence_map (by simp),
      Plan.statements_sequence_map (by simp)]
    simp [policyStatements, List.map_eq_flatMap]
  refine Plan.timed_congr parts ?_
  refine Plan.Timed.append 2 (Plan.Timed.append 1 ?enable ?drop (by omega) (by omega)) ?create
    (by omega) (by omega)
  case enable => exact Plan.timed_single (by simp [Statement.Within, Statement.moment])
  case drop =>
    refine Plan.timed_sequence [4, after.tablePosition change.table] Operation.all.idxOf 0 1
      (by decide) fun operation _ => ?_
    exact Plan.timed_single (by simp [Statement.Within, Statement.moment])
  case create =>
    refine Plan.timed_sequence [4, after.tablePosition change.table]
      (fun rule => Operation.all.idxOf rule.1) 0 1
      (pairwise_idxOf (by decide) change.changes_sublist) fun rule _ => ?_
    exact Plan.timed_single (by simp [Statement.Within, Statement.moment])

theorem timed_policies (inPlace : planner.dialect.isEmbedded = false)
    {changes : List AccessChange}
    (ordered : changes.Pairwise fun x y =>
      after.tablePosition x.table < after.tablePosition y.table) :
    (planner.policies changes).Timed before after [] 4 5 := by
  have supported : planner.dialect.supportsPolicies = true := by
    simp [Dialect.supportsPolicies, inPlace]
  refine Plan.Timed.append 4 (Plan.timed_of_eq_nil ?notes) ?blocks (by omega) (by omega)
  case notes =>
    have silent : (Plan.sequence (changes.map fun change => .ofResult
        (planner.policyBlock change) (notePolicies change.table))).All fun _ => False := by
      refine Plan.all_sequence (List.forall_mem_map.mpr fun change _ => ?_)
      refine Plan.all_ofResult fun block _ => ?_
      unfold notePolicies
      split
      · exact Plan.all_nothing
      · simp [Plan.All, Plan.statements, Step.statement?]
    exact List.eq_nil_iff_forall_not_mem.mpr silent
  case blocks =>
    refine Plan.timed_sequence [] (fun change => after.tablePosition change.table) 0 3 ordered
      fun change _ => Plan.timed_ofResult fun block made => ?_
    rw [policyBlock_of_ok supported made]
    exact timed_policyStatements change

section Tables

variable (validBefore : before.Valid) (validAfter : after.Valid) (target : planner.target = after)
  (inPlace : planner.dialect.isEmbedded = false)

include validBefore validAfter target inPlace

theorem timed_modifyTable {old table : Table} (member : table ∈ after.tables)
    (foundOld : before.table? table.name = some old) :
    (planner.modifyTable (.between old table)).Timed before after
      [3, after.tablePosition table.name] 0 3 := by
  have found : after.table? table.name = some table :=
    validAfter.table?_eq_some_iff.mpr ⟨member, rfl⟩
  have distinct := validAfter.fieldsDistinct table member
  have distinctOld := validBefore.fieldsDistinct old (Snapshot.mem_of_table? foundOld)
  rw [modifyTable, target, TableModification.between_table, found]
  refine Plan.Timed.append 2 (Plan.Timed.append 1 ?added ?removed (by omega) (by omega))
    ?modified (by omega) (by omega)
  case added =>
    refine Plan.timed_sequence [3, after.tablePosition table.name]
      (fun field => after.fieldPosition table.name field.name) 0 2 ?_ fun field added => ?_
    · simp only [Snapshot.fieldPosition_of_table? found]
      exact pairwise_idxOf distinct (List.filter_sublist.map _)
    · exact timed_addField foundOld (TableModification.mem_fieldsAdded.mp added).2
  case removed =>
    refine Plan.timed_sequence [3, after.tablePosition table.name]
      (fun field => before.fieldPosition table.name field.name) 0 2 ?_ fun field removed => ?_
    · simp only [Snapshot.fieldPosition_of_table? foundOld]
      exact pairwise_idxOf distinctOld (List.filter_sublist.map _)
    · refine timed_removeField ?_
      simp [Snapshot.field?, found, (TableModification.mem_fieldsRemoved.mp removed).2]
  case modified =>
    refine Plan.timed_sequence [3, after.tablePosition table.name]
      (fun m => after.fieldPosition table.name m.name) 0 5 ?_ fun m modified => ?_
    · simp only [Snapshot.fieldPosition_of_table? found]
      exact pairwise_idxOf distinct TableModification.fieldsModified_sublist
    · obtain ⟨field, declared, previous, foundPrevious, -, rfl⟩ :=
        (TableModification.mem_fieldsModified distinctOld).mp modified
      refine timed_modifyField ?_ ?_ inPlace rfl
      · simp [Snapshot.field?, foundOld, foundPrevious]
      · rw [Snapshot.field?, found]
        exact Table.field?_isSome_iff.mpr (List.mem_map_of_mem declared)

theorem timed_carryOut :
    (planner.carryOut (.between before after)).Timed before after [] 0 5 := by
  have distinct := validAfter.tablesDistinct
  refine Plan.Timed.append 4 (Plan.Timed.append 3 (Plan.Timed.append 1 ?removed ?created
    (by omega) (by omega)) ?modified (by omega) (by omega)) ?policies (by omega) (by omega)
  case removed =>
    refine Plan.timed_sequence [] (fun table => before.tablePosition table.name) 0 1 ?_
      fun table _ => timed_dropTable table
    exact pairwise_idxOf validBefore.tablesDistinct (List.filter_sublist.map _)
  case created =>
    have ordered : (Diff.between before after).added.Pairwise fun x y =>
        after.tablePosition x.name < after.tablePosition y.name :=
      pairwise_idxOf distinct (List.filter_sublist.map _)
    refine Plan.Timed.append 2 ?_ ?_ (by omega) (by omega)
    · exact Plan.timed_sequence [] (fun table => after.tablePosition table.name) 0 1 ordered
        fun table _ => timed_createTable table
    · refine Plan.timed_sequence [] (fun table => after.tablePosition table.name) 0 1 ordered
        fun table added => ?_
      obtain ⟨member, new⟩ := Diff.mem_added.mp added
      refine Plan.timed_sequence [2, after.tablePosition table.name]
        (fun field => after.fieldPosition table.name field.name) 0 1 ?_
        fun field _ => timed_addConstraint_of_new new
      simp only [Snapshot.fieldPosition_of_table?
        (validAfter.table?_eq_some_iff.mpr ⟨member, rfl⟩)]
      exact pairwise_idxOf (validAfter.fieldsDistinct table member) (List.Sublist.refl _)
  case modified =>
    refine Plan.timed_sequence [] (fun m => after.tablePosition m.table) 0 3 ?_ fun m modified => ?_
    · exact pairwise_idxOf distinct Diff.modified_sublist
    · obtain ⟨table, member, old, foundOld, -, rfl⟩ :=
        (Diff.mem_modified validBefore.tablesDistinct).mp modified
      exact timed_modifyTable validBefore validAfter target inPlace member foundOld
  case policies => exact timed_policies inPlace (pairwise_idxOf distinct Diff.access_sublist)

end Tables

end Planner

end SchemaDelta
