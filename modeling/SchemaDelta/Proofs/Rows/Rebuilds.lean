import SchemaDelta.Proofs.Settlement

/-!
# Scripts with rebuilt columns

Where columns cannot be altered in place, the statements that move values come in blocks of four,
one for every field whose type changes: a column is added under a temporary name, the values are
copied into it, the old column is dropped, and the new one takes its name.
-/

namespace SchemaDelta

/-- A field of both snapshots that gets a new type. -/
structure TypeChange where
  table : String
  column : String
  type : FieldType

/-- The fields of a table that get a new type, in the order of the new table. -/
def Table.typeChanges (before : Option Table) (after : Table) : List TypeChange :=
  after.fields.filterMap fun field => (before.bind (·.field? field.name)).bind fun old =>
    if old.type = field.type then none else some ⟨after.name, field.name, field.type⟩

/-- The fields of a snapshot that get a new type, in the order of the new snapshot. -/
def Snapshot.typeChanges (before after : Snapshot) : List TypeChange :=
  after.tables.flatMap fun table => Table.typeChanges (before.table? table.name) table

theorem Table.typeChanges_of_isEmpty {before after : Table}
    (distinct : (before.fields.map Field.name).Nodup)
    (unchanged : (TableModification.between before after).isEmpty = true) :
    Table.typeChanges (some before) after = [] := by
  refine List.filterMap_eq_nil_iff.mpr fun field member => ?_
  rw [Option.bind_some]
  cases foundOld : before.field? field.name with
  | none => rfl
  | some old =>
    have same := TableModification.isEmpty_field distinct unchanged member foundOld
    exact if_pos (FieldModification.isEmpty_between.mp same).1

/-- The statement moves values from one column to another. -/
def Statement.MovesValues : Statement → Prop
  | copyCast _ _ _ _ => True
  | renameColumn _ _ _ => True
  | _ => False

/-- A script in which one block of four statements after the other rebuilds a column, and no other
statement moves values. -/
inductive Dialect.Rebuilds (dialect : Dialect) : List TypeChange → List Statement → Prop
  | nil : Rebuilds dialect [] []
  | plain {changes : List TypeChange} {script : List Statement} {s : Statement}
      (still : ¬ s.MovesValues) (rest : Rebuilds dialect changes script) :
      Rebuilds dialect changes (s :: script)
  | rebuild {changes : List TypeChange} {script : List Statement} (change : TypeChange)
      (temporary : String) (default : Option RenderedDefault)
      (rest : Rebuilds dialect changes script) :
      Rebuilds dialect (change :: changes) (
        .addColumn change.table {
          name := temporary
          type := dialect.columnType change.type
          default := default } ::
        .copyCast change.table change.column temporary (dialect.copyType change.type) ::
        .dropColumn change.table change.column ::
        .renameColumn change.table temporary change.column :: script)

namespace Dialect

variable {dialect : Dialect} {changes changes' : List TypeChange}
  {script script' : List Statement}

theorem Rebuilds.append (first : dialect.Rebuilds changes script)
    (second : dialect.Rebuilds changes' script') :
    dialect.Rebuilds (changes ++ changes') (script ++ script') := by
  induction first with
  | nil => exact second
  | plain still _ ih => exact .plain still ih
  | rebuild change temporary default _ ih => exact .rebuild change temporary default ih

theorem rebuilds_of_still (still : ∀ s ∈ script, ¬ s.MovesValues) :
    dialect.Rebuilds [] script := by
  induction script with
  | nil => exact .nil
  | cons s script ih =>
    obtain ⟨head, tail⟩ := List.forall_mem_cons.mp still
    exact .plain head (ih tail)

theorem rebuilds_flatMap {ι : Type} {items : List ι} {changes : ι → List TypeChange}
    {script : ι → List Statement}
    (each : ∀ item ∈ items, dialect.Rebuilds (changes item) (script item)) :
    dialect.Rebuilds (items.flatMap changes) (items.flatMap script) := by
  induction items with
  | nil => exact .nil
  | cons item items ih =>
    obtain ⟨head, tail⟩ := List.forall_mem_cons.mp each
    exact head.append (ih tail)

end Dialect

namespace Planner

variable {planner : Planner}

theorem still_addConstraint (table column : String) (key : Option ForeignKey) :
    (planner.addConstraint table column key).All (¬ ·.MovesValues) :=
  all_addConstraint_of fun _ _ moves => moves

theorem still_addField (table : String) (field : Field) :
    (planner.addField table field).All (¬ ·.MovesValues) := by
  refine Plan.all_ofResult fun column _ => Plan.all_append ?_ (still_addConstraint _ _ _)
  exact Plan.all_execute.mpr (List.forall_mem_singleton.mpr fun moves => moves)

theorem still_removeField (table : String) (field : Field) :
    (planner.removeField table field).All (¬ ·.MovesValues) := by
  refine Plan.all_append (all_dropConstraint_of fun _ _ moves => moves) ?_
  exact Plan.all_execute.mpr (List.forall_mem_singleton.mpr fun moves => moves)

theorem still_createTables (tables : List Table) :
    (planner.createTables tables).All (¬ ·.MovesValues) :=
  all_createTables_of (fun _ _ _ _ moves => moves) fun _ _ _ moves => moves

theorem still_policies (changes : List AccessChange) :
    (planner.policies changes).All (¬ ·.MovesValues) := by
  intro s member
  obtain ⟨change, -, keeps⟩ := all_policies _ s member
  rcases keepsColumns_cases keeps with rfl | ⟨operation, rfl⟩ | ⟨operation, predicate, rfl⟩
  · exact not_false
  · exact not_false
  · exact not_false

variable (embedded : planner.dialect.isEmbedded = true)

include embedded

theorem rebuilds_modifyField (declaration : Table) (old field : Field) :
    planner.dialect.Rebuilds
      (if old.type = field.type then [] else [⟨declaration.name, field.name, field.type⟩])
      (planner.modifyField declaration (.between old field)).statements := by
  rw [statements_modifyField_of_embedded embedded]
  by_cases same : old.type = field.type
  · rw [FieldModification.between_type_of_eq same, if_pos same]
    exact .nil
  · rw [FieldModification.between_type_of_ne same, if_neg same, Option.map_some, Option.getD_some,
      statements_rebuildColumn]
    exact .rebuild ⟨declaration.name, field.name, field.type⟩ _ _ .nil

/-- The changes of fields rebuild the columns that get a new type. -/
theorem rebuilds_fieldsModified {before after : Table}
    (distinct : (before.fields.map Field.name).Nodup) :
    planner.dialect.Rebuilds (Table.typeChanges (some before) after)
      ((TableModification.between before after).fieldsModified.flatMap fun m =>
        (planner.modifyField after m).statements) := by
  rw [Table.typeChanges, List.filterMap_eq_flatMap_toList, TableModification.between,
    flatMap_filterMap_eq fun _ _ => rfl]
  refine Dialect.rebuilds_flatMap fun field _ => ?_
  rw [Table.lastField?_eq_field? distinct, Option.bind_some]
  cases before.field? field.name with
  | none => exact .nil
  | some old =>
    rw [Option.bind_some, Option.bind_some]
    have changes := rebuilds_modifyField embedded after old field
    cases made : FieldModification.between? old field with
    | none =>
      have unchanged := FieldModification.between?_eq_none_iff.mp made
      rw [if_pos (FieldModification.isEmpty_between.mp unchanged).1]
      exact .nil
    | some m =>
      obtain ⟨-, rfl⟩ := FieldModification.between?_eq_some_iff.mp made
      by_cases same : old.type = field.type
      · simpa [same] using changes
      · simpa [same] using changes

theorem rebuilds_modifyTable {before after : Table}
    (distinct : (before.fields.map Field.name).Nodup)
    (declared : planner.target.table? after.name = some after)
    (complete : (planner.modifyTable (.between before after)).Complete) :
    planner.dialect.Rebuilds (Table.typeChanges (some before) after)
      (planner.modifyTable (.between before after)).statements := by
  rw [statements_modifyTable declared complete]
  have adds : planner.dialect.Rebuilds []
      ((TableModification.between before after).fieldsAdded.flatMap fun field =>
        (planner.addField after.name field).statements) := by
    refine Dialect.rebuilds_of_still fun s member => ?_
    obtain ⟨field, -, member⟩ := List.mem_flatMap.mp member
    exact still_addField _ _ s member
  have removes : planner.dialect.Rebuilds []
      ((TableModification.between before after).fieldsRemoved.flatMap fun field =>
        (planner.removeField after.name field).statements) := by
    refine Dialect.rebuilds_of_still fun s member => ?_
    obtain ⟨field, -, member⟩ := List.mem_flatMap.mp member
    exact still_removeField _ _ s member
  exact (adds.append removes).append (rebuilds_fieldsModified embedded distinct)

section Snapshots

variable {before after : Snapshot} (validBefore : before.Valid) (validAfter : after.Valid)
  (target : planner.target = after)

include validBefore validAfter target

theorem rebuilds_modified
    (complete : ∀ m ∈ (Diff.between before after).modified, (planner.modifyTable m).Complete) :
    planner.dialect.Rebuilds (before.typeChanges after)
      ((Diff.between before after).modified.flatMap fun m =>
        (planner.modifyTable m).statements) := by
  rw [Diff.between, flatMap_filterMap_eq fun _ _ => rfl]
  refine Dialect.rebuilds_flatMap fun table member => ?_
  rw [Snapshot.lastTable?_eq_table? validBefore.tablesDistinct]
  cases foundOld : before.table? table.name with
  | none =>
    have added : Table.typeChanges none table = [] := List.filterMap_eq_nil_iff.mpr fun _ _ => rfl
    rw [added]
    exact .nil
  | some old =>
    have distinct := validBefore.fieldsDistinct old (Snapshot.mem_of_table? foundOld)
    rw [Option.bind_some]
    cases made : TableModification.between? old table with
    | none =>
      have unchanged := TableModification.between?_eq_none_iff.mp made
      rw [Table.typeChanges_of_isEmpty distinct unchanged]
      exact .nil
    | some m =>
      obtain ⟨nonempty, rfl⟩ := TableModification.between?_eq_some_iff.mp made
      have modified := (Diff.mem_modified validBefore.tablesDistinct).mpr
        ⟨table, member, old, foundOld, nonempty, rfl⟩
      have declared := validAfter.table?_eq_some_iff.mpr ⟨member, rfl⟩
      exact rebuilds_modifyTable embedded distinct (target ▸ declared) (complete _ modified)

/-- A migration rebuilds the columns that get a new type, one after the other, and moves no other
values. -/
theorem rebuilds_carryOut (complete : (planner.carryOut (.between before after)).Complete) :
    planner.dialect.Rebuilds (before.typeChanges after)
      (planner.carryOut (.between before after)).statements := by
  obtain ⟨-, modifies, -⟩ := complete_carryOut_iff.mp complete
  rw [statements_carryOut complete]
  have drops : planner.dialect.Rebuilds []
      ((Diff.between before after).removed.flatMap fun table =>
        (planner.dropTable table).statements) := by
    refine Dialect.rebuilds_of_still fun s member => ?_
    obtain ⟨table, -, member⟩ := List.mem_flatMap.mp member
    rw [dropTable, Plan.statements_execute, List.mem_singleton] at member
    subst member
    exact fun moves => moves
  have creates : planner.dialect.Rebuilds []
      (planner.createTables (Diff.between before after).added).statements :=
    Dialect.rebuilds_of_still (still_createTables _)
  have policies : planner.dialect.Rebuilds []
      (planner.policies (Diff.between before after).access).statements :=
    Dialect.rebuilds_of_still (still_policies _)
  have changes := rebuilds_modified embedded validBefore validAfter target modifies
  simpa using ((drops.append creates).append changes).append policies

end Snapshots

end Planner

end SchemaDelta
