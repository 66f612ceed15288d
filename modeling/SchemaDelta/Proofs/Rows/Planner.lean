import SchemaDelta.Proofs.Rows.Carried
import SchemaDelta.Proofs.Settlement

/-!
# Planners carry values over

The steps for one field leave the columns of all other fields alone, also those with names that look
like temporary ones: a temporary name is not the name of a field. So a migration carries the values
of a column over as the steps for its own field do, which cast them if the type changes.
-/

namespace SchemaDelta

variable {V : Type} {engine : Engine V}

/-- What a migration makes of the values of a field that both snapshots have. -/
def Dialect.carry (dialect : Dialect) (engine : Engine V) (before after : Field) : V → V :=
  if before.type = after.type then id
  else engine.cast (if dialect.isEmbedded then dialect.copyType after.type
    else dialect.columnType after.type)

namespace Planner

variable {planner : Planner} {table name : String} {declaration : Table} {old field : Field}

/-- The statement is about another table or leaves the column alone. -/
def LeavesAlone (table name : String) (s : Statement) : Prop :=
  s.alteredTable? = some table → ¬ s.Touches name

theorem leavesAlone_of_onTable {other : String} {s : Statement} (apart : other ≠ table)
    (on : s.OnTable other) : LeavesAlone table name s := by
  intro on'
  exact absurd (Option.some.inj (on.1.symm.trans on')) apart

theorem leavesAlone_addConstraint (key : Option ForeignKey) (owner column : String) :
    (planner.addConstraint owner column key).All (LeavesAlone table name) :=
  all_addConstraint_of fun _ _ _ touches => touches

theorem leavesAlone_dropConstraint (key : Option ForeignKey) (column : String) :
    (planner.dropConstraint table column key).All (LeavesAlone table name) :=
  all_dropConstraint_of fun _ _ _ touches => touches

theorem leavesAlone_addField (apart : field.name ≠ name) :
    (planner.addField table field).All (LeavesAlone table name) := by
  refine Plan.all_ofResult fun column made => Plan.all_append ?_ (leavesAlone_addConstraint _ _ _)
  obtain ⟨named, -⟩ := column_spec made
  exact Plan.all_execute.mpr (List.forall_mem_singleton.mpr fun _ touches =>
    apart (named.symm.trans touches))

theorem leavesAlone_removeField (apart : field.name ≠ name) :
    (planner.removeField table field).All (LeavesAlone table name) := by
  refine Plan.all_append (leavesAlone_dropConstraint _ _) ?_
  exact Plan.all_execute.mpr (List.forall_mem_singleton.mpr fun _ touches => apart touches)

theorem leavesAlone_alterConstraints (m : FieldModification) :
    (planner.alterConstraints table m).All (LeavesAlone table name) :=
  all_alterConstraints_of (fun _ _ touches => touches) (fun _ _ _ _ touches => touches)
    (fun _ touches => touches) (fun _ _ touches => touches) fun _ touches => touches

theorem leavesAlone_createTables (tables : List Table) :
    (planner.createTables tables).All (LeavesAlone table name) :=
  all_createTables_of (fun _ _ _ _ _ touches => touches) fun _ _ _ _ touches => touches

theorem not_touches_of_keepsColumns {s : Statement} (keeps : KeepsColumns table s) :
    ¬ s.Touches name := by
  rcases keepsColumns_cases keeps with rfl | ⟨operation, rfl⟩ | ⟨operation, predicate, rfl⟩
  · exact not_false
  · exact not_false
  · exact not_false

/-- Changing a field leaves the columns of other fields alone. -/
theorem leavesAlone_modifyField {m : FieldModification} (apart : m.name ≠ name)
    (declared : (declaration.field? name).isSome) :
    (planner.modifyField declaration m).All (LeavesAlone declaration.name name) := by
  refine Plan.all_append ?_ (all_onChange fun change => Plan.all_warn _)
  cases m.type with
  | none => exact leavesAlone_alterConstraints m
  | some change =>
    simp only
    split
    · refine Plan.all_append ?_ (leavesAlone_alterConstraints m)
      exact Plan.all_execute.mpr (List.forall_mem_singleton.mpr fun _ touches => apart touches)
    · -- the temporary name is not the name of a field
      have temporary : rebuildName declaration m.name ≠ name := by
        intro same
        rw [← same, field?_rebuildName] at declared
        cases declared
      intro s member
      rw [statements_rebuildColumn] at member
      simp only [List.mem_cons, List.not_mem_nil, or_false] at member
      rcases member with rfl | rfl | rfl | rfl
      · exact fun _ touches => temporary touches
      · exact fun _ touches => temporary touches
      · exact fun _ touches => apart touches
      · exact fun _ touches => touches.elim temporary apart

/-- Changing a field carries its values over. -/
theorem carries_modifyField (declared : declaration.field? field.name = some field)
    (complete : (planner.modifyField declaration (.between old field)).Complete) :
    Carries engine declaration.name field.name (planner.dialect.carry engine old field)
      (planner.modifyField declaration (.between old field)).statements := by
  cases kind : planner.dialect.isEmbedded with
  | false =>
    obtain ⟨statements, -⟩ := statements_modifyField_of_inPlace kind complete
    have constraints : Carries engine declaration.name field.name id
        (planner.alterConstraints declaration.name (.between old field)).statements :=
      carries_of_untouched (leavesAlone_alterConstraints _)
    rw [statements]
    by_cases same : old.type = field.type
    · rw [FieldModification.between_type_of_eq same, Dialect.carry, if_pos same]
      exact constraints
    · rw [FieldModification.between_type_of_ne same, Dialect.carry, if_neg same, kind]
      exact (carries_alterColumnType _ _ _).append_untouched constraints
  | true =>
    rw [statements_modifyField_of_embedded kind]
    by_cases same : old.type = field.type
    · rw [FieldModification.between_type_of_eq same, Dialect.carry, if_pos same]
      exact carries_of_untouched (by simp)
    · have temporary : rebuildName declaration field.name ≠ field.name := by
        intro same
        have free := field?_rebuildName declaration field.name
        rw [same, declared] at free
        cases free
      rw [FieldModification.between_type_of_ne same, Dialect.carry, if_neg same, kind, if_pos rfl,
        Option.map_some, Option.getD_some, statements_rebuildColumn]
      exact carries_rebuild temporary

section Tables

variable {before after : Table}

theorem mem_fieldsModified_of_type (distinctBefore : (before.fields.map Field.name).Nodup)
    (foundOld : before.field? field.name = some old) (found : after.field? field.name = some field)
    (differ : old.type ≠ field.type) :
    FieldModification.between old field ∈
      (TableModification.between before after).fieldsModified := by
  refine (TableModification.mem_fieldsModified distinctBefore).mpr
    ⟨field, Table.mem_of_field? found, old, foundOld, ?_, rfl⟩
  rw [← Bool.not_eq_true, FieldModification.isEmpty_between]
  exact fun unchanged => differ unchanged.1

/-- The changes of fields carry the values of a common field over, whatever the others are. -/
theorem carries_fieldsModified (distinct : (after.fields.map Field.name).Nodup)
    (distinctBefore : (before.fields.map Field.name).Nodup)
    (complete : ∀ m ∈ (TableModification.between before after).fieldsModified,
      (planner.modifyField after m).Complete)
    (foundOld : before.field? field.name = some old)
    (found : after.field? field.name = some field) :
    Carries engine after.name field.name (planner.dialect.carry engine old field)
      ((TableModification.between before after).fieldsModified.flatMap fun m =>
        (planner.modifyField after m).statements) := by
  refine carries_flatMap field.name (TableModification.fieldsModified_distinct distinct)
    (fun m modified apart => ?others) (fun m modified same => ?here) fun missing => ?absent
  case others => exact carries_of_untouched (leavesAlone_modifyField apart (by simp [found]))
  case here =>
    obtain ⟨field', member, old', foundOld', -, rfl⟩ :=
      (TableModification.mem_fieldsModified distinctBefore).mp modified
    have found' := (Table.field?_eq_some_iff distinct).mpr ⟨member, same⟩
    obtain rfl : field' = field := Option.some.inj (found'.symm.trans found)
    obtain rfl : old' = old := Option.some.inj (foundOld'.symm.trans foundOld)
    exact carries_modifyField found (complete _ modified)
  case absent =>
    refine if_pos ?_
    by_contra differ
    have modified := mem_fieldsModified_of_type distinctBefore foundOld found differ
    exact missing (List.mem_map.mpr ⟨.between old field, modified, rfl⟩)

/-- Carrying out the modification of a table carries the values of a common field over. -/
theorem carries_modifyTable (distinct : (after.fields.map Field.name).Nodup)
    (distinctBefore : (before.fields.map Field.name).Nodup)
    (declared : planner.target.table? after.name = some after)
    (complete : (planner.modifyTable (.between before after)).Complete)
    (foundOld : before.field? field.name = some old)
    (found : after.field? field.name = some field) :
    Carries engine after.name field.name (planner.dialect.carry engine old field)
      (planner.modifyTable (.between before after)).statements := by
  obtain ⟨-, -, modifies⟩ := (complete_modifyTable_iff declared).mp complete
  rw [statements_modifyTable declared complete]
  have adds : Carries engine after.name field.name id
      ((TableModification.between before after).fieldsAdded.flatMap fun field =>
        (planner.addField after.name field).statements) := by
    refine carries_of_untouched fun s member => ?_
    obtain ⟨other, added, member⟩ := List.mem_flatMap.mp member
    refine leavesAlone_addField (fun same => ?_) s member
    have new := (TableModification.mem_fieldsAdded.mp added).2
    rw [same, foundOld] at new
    cases new
  have removes : Carries engine after.name field.name id
      ((TableModification.between before after).fieldsRemoved.flatMap fun field =>
        (planner.removeField after.name field).statements) := by
    refine carries_of_untouched fun s member => ?_
    obtain ⟨other, removed, member⟩ := List.mem_flatMap.mp member
    refine leavesAlone_removeField (fun same => ?_) s member
    have gone := (TableModification.mem_fieldsRemoved.mp removed).2
    rw [same, found] at gone
    cases gone
  exact (adds.append removes).untouched_append
    (carries_fieldsModified distinct distinctBefore modifies foundOld found)

end Tables

section Snapshots

variable {before after : Snapshot} {oldTable declared : Table}

/-- The modifications of tables carry the values of a common field over. -/
theorem carries_modified (validBefore : before.Valid) (validAfter : after.Valid)
    (target : planner.target = after)
    (complete : ∀ m ∈ (Diff.between before after).modified, (planner.modifyTable m).Complete)
    (member : declared ∈ after.tables) (foundTable : before.table? declared.name = some oldTable)
    (foundOld : oldTable.field? field.name = some old)
    (found : declared.field? field.name = some field) :
    Carries engine declared.name field.name (planner.dialect.carry engine old field)
      ((Diff.between before after).modified.flatMap fun m =>
        (planner.modifyTable m).statements) := by
  have distinctOld := validBefore.fieldsDistinct oldTable (Snapshot.mem_of_table? foundTable)
  refine carries_flatMap declared.name (Diff.modified_distinct validAfter.tablesDistinct)
    (fun m modified apart => ?others) (fun m modified same => ?here) fun missing => ?absent
  case others =>
    exact carries_of_untouched fun s member =>
      leavesAlone_of_onTable apart (all_modifyTable m s member)
  case here =>
    obtain ⟨table, tableMember, oldTable', foundTable', -, rfl⟩ :=
      (Diff.mem_modified validBefore.tablesDistinct).mp modified
    obtain rfl : table = declared :=
      List.inj_on_of_nodup_map validAfter.tablesDistinct tableMember member same
    obtain rfl : oldTable' = oldTable := Option.some.inj (foundTable'.symm.trans foundTable)
    refine carries_modifyTable (validAfter.fieldsDistinct table member) distinctOld ?_
      (complete _ modified) foundOld found
    exact target ▸ validAfter.table?_eq_some_iff.mpr ⟨member, rfl⟩
  case absent =>
    refine if_pos ?_
    by_contra differ
    have modified := mem_fieldsModified_of_type distinctOld foundOld found differ
    refine missing (List.mem_map.mpr ⟨.between oldTable declared, ?_, rfl⟩)
    refine (Diff.mem_modified validBefore.tablesDistinct).mpr
      ⟨declared, member, oldTable, foundTable, ?_, rfl⟩
    simp [TableModification.isEmpty, List.ne_nil_of_mem modified]

/-- A migration carries the values of a common field over. -/
theorem carries_carryOut (validBefore : before.Valid) (validAfter : after.Valid)
    (target : planner.target = after)
    (complete : (planner.carryOut (.between before after)).Complete)
    (member : declared ∈ after.tables) (foundTable : before.table? declared.name = some oldTable)
    (foundOld : oldTable.field? field.name = some old)
    (found : declared.field? field.name = some field) :
    Carries engine declared.name field.name (planner.dialect.carry engine old field)
      (planner.carryOut (.between before after)).statements := by
  obtain ⟨-, modifies, -⟩ := complete_carryOut_iff.mp complete
  rw [statements_carryOut complete]
  have drops : Carries engine declared.name field.name id
      ((Diff.between before after).removed.flatMap fun table =>
        (planner.dropTable table).statements) := by
    refine carries_of_untouched fun s member on => ?_
    obtain ⟨table, -, member⟩ := List.mem_flatMap.mp member
    rw [dropTable, Plan.statements_execute, List.mem_singleton] at member
    subst member
    cases on
  have creates : Carries engine declared.name field.name id
      (planner.createTables (Diff.between before after).added).statements :=
    carries_of_untouched (leavesAlone_createTables _)
  have policies : Carries engine declared.name field.name id
      (planner.policies (Diff.between before after).access).statements := by
    refine carries_of_untouched fun s member _ => ?_
    obtain ⟨change, -, keeps⟩ := all_policies _ s member
    exact not_touches_of_keepsColumns keeps
  refine ((drops.append creates).untouched_append ?_).append_untouched policies
  exact carries_modified validBefore validAfter target modifies member foundTable foundOld found

/-- A migration neither creates nor drops a table that both snapshots have. -/
theorem spares_carryOut (complete : (planner.carryOut (.between before after)).Complete)
    (foundBefore : (before.table? table).isSome) (foundAfter : (after.table? table).isSome) :
    (planner.carryOut (.between before after)).All (Statement.Spares table) := by
  intro s member
  simp only [statements_carryOut complete, List.mem_append, List.mem_flatMap,
    or_assoc] at member
  rcases member with ⟨other, removed, member⟩ | member | ⟨m, -, member⟩ | member
  · obtain ⟨-, gone⟩ := Diff.mem_removed.mp removed
    rw [dropTable, Plan.statements_execute, List.mem_singleton] at member
    subst member
    refine ⟨fun _ => Statement.noConfusion, ?_⟩
    rintro cascade same
    cases same
    rw [gone] at foundAfter
    cases foundAfter
  · refine all_createTables_of (fun created added columns _ => ?_) (fun _ _ _ => ?_) s member
    · refine ⟨?_, fun _ => Statement.noConfusion⟩
      rintro columns' same
      cases same
      rw [(Diff.mem_added.mp added).2] at foundBefore
      cases foundBefore
    · exact Statement.spares_of_alteredTable? table rfl
  · exact Statement.spares_of_alteredTable? table (all_modifyTable m s member).1
  · obtain ⟨change, -, keeps⟩ := all_policies _ s member
    exact Statement.spares_of_alteredTable? table keeps.1

end Snapshots

end Planner

end SchemaDelta
