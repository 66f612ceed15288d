import SchemaDelta.Proofs.Reordering
import SchemaDelta.Proofs.Settlement.Warnings

/-!
# Migrations from a reordered snapshot

The planner takes the order of its steps from the diff. So when only the old snapshot is reordered,
tables are dropped in another order, and so are the columns that a table loses; all else, the
warnings and the error of a migration that cannot be planned included, stays as it is.
-/

namespace SchemaDelta

/-- The statements that remove a column, and first its constraint if it has one. -/
def removalStatements (table column : String) (constrained : Bool) : List Statement :=
  (if constrained then [.dropForeignKey table column] else []) ++ [.dropColumn table column]

/-- The scripts are the same, but tables that are dropped one after the other may be dropped in
another order, and so may columns that are removed from a table one after the other. -/
inductive Rearranged : List Statement → List Statement → Prop
  | nil : Rearranged [] []
  | same (statement : Statement) {rest rest' : List Statement} (others : Rearranged rest rest') :
    Rearranged (statement :: rest) (statement :: rest')
  | tables (cascade : Bool) {names names' : List String} (permuted : names.Perm names')
    {rest rest' : List Statement} (others : Rearranged rest rest') :
    Rearranged (names.map (.dropTable · cascade) ++ rest)
      (names'.map (.dropTable · cascade) ++ rest')
  | columns (table : String) {removed removed' : List (String × Bool)}
    (permuted : removed.Perm removed') {rest rest' : List Statement}
    (others : Rearranged rest rest') :
    Rearranged (removed.flatMap (fun column => removalStatements table column.1 column.2) ++ rest)
      (removed'.flatMap (fun column => removalStatements table column.1 column.2) ++ rest')

namespace Rearranged

variable {s s' t t' : List Statement}

theorem refl (s : List Statement) : Rearranged s s := by
  induction s with
  | nil => exact .nil
  | cons statement rest ih => exact .same statement ih

theorem append (first : Rearranged s s') (second : Rearranged t t') :
    Rearranged (s ++ t) (s' ++ t') := by
  induction first with
  | nil => exact second
  | same statement _ ih => exact .same statement ih
  | tables cascade permuted _ ih =>
    rw [List.append_assoc, List.append_assoc]
    exact .tables cascade permuted ih
  | columns table permuted _ ih =>
    rw [List.append_assoc, List.append_assoc]
    exact .columns table permuted ih

end Rearranged

/-- Both migrations fail by the same error, or they have the same warnings and access changes, and
statements that are rearranged. -/
inductive SameOutcome : Except SchemaError Migration → Except SchemaError Migration → Prop
  | failed (error : SchemaError) : SameOutcome (.error error) (.error error)
  | planned {m m' : Migration} (warnings : m.warnings = m'.warnings) (access : m.access = m'.access)
    (statements : Rearranged m.statements m'.statements) : SameOutcome (.ok m) (.ok m')

/-- The plans end in the same way, with the same warnings and rearranged statements. -/
structure Plan.Rearranges (p q : Plan) : Prop where
  failure : p.failure = q.failure
  warnings : p.warnings = q.warnings
  statements : Rearranged p.statements q.statements

namespace Plan.Rearranges

variable {p p' q q' : Plan}

theorem refl (p : Plan) : p.Rearranges p := ⟨rfl, rfl, .refl _⟩

theorem append (first : p.Rearranges p') (second : q.Rearranges q') :
    (p ++ q).Rearranges (p' ++ q') := by
  by_cases complete : p.Complete
  · have complete' : p'.Complete := first.failure.symm.trans complete
    refine ⟨?_, ?_, ?_⟩
    · rw [failure_append complete, failure_append complete', second.failure]
    · rw [warnings_append complete, warnings_append complete', first.warnings, second.warnings]
    · rw [statements_append complete, statements_append complete']
      exact first.statements.append second.statements
  · have early : ¬ p'.Complete := fun complete' => complete (first.failure.trans complete')
    rw [append_of_not_complete complete, append_of_not_complete early]
    exact first

theorem sequence_map {α β : Type} {R : α → β → Prop} {items : List α} {items' : List β}
    {plan : α → Plan} {plan' : β → Plan} (pairs : List.Forall₂ R items items')
    (each : ∀ item item', R item item' → (plan item).Rearranges (plan' item')) :
    (sequence (items.map plan)).Rearranges (sequence (items'.map plan')) := by
  induction pairs with
  | nil => exact refl _
  | cons related _ ih => exact (each _ _ related).append ih

/-- It is enough that the statements are rearranged if nothing fails and there is no warning. -/
theorem of_silent {α : Type} {items items' : List α} {plan : α → Plan}
    (complete : ∀ item, (plan item).Complete) (silent : ∀ item, (plan item).Silent)
    (statements : Rearranged (items.flatMap fun item => (plan item).statements)
      (items'.flatMap fun item => (plan item).statements)) :
    (sequence (items.map plan)).Rearranges (sequence (items'.map plan)) where
  failure :=
    (complete_sequence_map.mpr fun item _ => complete item).trans
      (complete_sequence_map.mpr fun item _ => complete item).symm
  warnings :=
    (silent_sequence (List.forall_mem_map.mpr fun item _ => silent item)).trans
      (silent_sequence (List.forall_mem_map.mpr fun item _ => silent item)).symm
  statements := by
    rw [statements_sequence_map fun item _ => complete item,
      statements_sequence_map fun item _ => complete item]
    exact statements

theorem sameOutcome (same : p.Rearranges q) (dialect : Dialect) (access : List AccessChange) :
    SameOutcome (p.toMigration dialect access) (q.toMigration dialect access) := by
  rw [toMigration, toMigration, ← same.failure]
  cases p.failure with
  | some error => exact .failed error
  | none => exact .planned same.warnings rfl same.statements

end Plan.Rearranges

namespace Planner

variable (planner : Planner)

theorem statements_removeField (table : String) (field : Field) :
    (planner.removeField table field).statements = removalStatements table field.name
      (field.foreignKey.isSome && planner.dialect.usesSeparateForeignKeys) := by
  rw [removeField, Plan.statements_append (complete_dropConstraint _), Plan.statements_execute]
  unfold dropConstraint removalStatements
  cases field.foreignKey with
  | none => rfl
  | some key =>
    simp only [Option.isSome_some, Bool.true_and]
    split
    · rw [Plan.statements_execute]
    · rfl

/-- Dropping the same tables in another order. -/
theorem rearranges_dropTables {tables tables' : List Table}
    (permuted : (tables.map Table.name).Perm (tables'.map Table.name)) :
    (Plan.sequence (tables.map planner.dropTable)).Rearranges
      (.sequence (tables'.map planner.dropTable)) := by
  have statements : ∀ tables : List Table,
      (tables.flatMap fun table => (planner.dropTable table).statements) =
        (tables.map Table.name).map
          (.dropTable · (planner.dialect.dropsCascade planner.config.dropCascade)) ++ [] := by
    intro tables
    rw [List.append_nil, List.map_map, List.map_eq_flatMap]
    simp only [dropTable, Plan.statements_execute, Function.comp_apply]
  refine Plan.Rearranges.of_silent (fun table => Plan.complete_execute _)
    (fun table => Plan.silent_execute _) ?_
  rw [statements tables, statements tables']
  exact .tables _ permuted .nil

/-- Removing the same fields in another order. -/
theorem rearranges_removeFields (table : String) {fields fields' : List Field}
    (permuted : fields.Perm fields') :
    (Plan.sequence (fields.map (planner.removeField table))).Rearranges
      (.sequence (fields'.map (planner.removeField table))) := by
  let removal (field : Field) : String × Bool :=
    (field.name, field.foreignKey.isSome && planner.dialect.usesSeparateForeignKeys)
  have statements : ∀ fields : List Field,
      (fields.flatMap fun field => (planner.removeField table field).statements) =
        (fields.map removal).flatMap
          (fun column => removalStatements table column.1 column.2) ++ [] := by
    intro fields
    rw [List.append_nil, List.flatMap_map]
    simp only [statements_removeField, removal]
  refine Plan.Rearranges.of_silent
    (fun field => Plan.complete_append.mpr ⟨complete_dropConstraint _, rfl⟩)
    (silent_removeField table) ?_
  rw [statements fields, statements fields']
  exact .columns table (permuted.map removal) .nil

theorem rearranges_modifyTable {m m' : TableModification} (same : m.SameButRemoved m') :
    (planner.modifyTable m).Rearranges (planner.modifyTable m') := by
  obtain ⟨removed, permuted, rfl⟩ := same
  unfold modifyTable
  cases planner.target.table? m.table with
  | none => exact .refl _
  | some table =>
    have removes := planner.rearranges_removeFields m.table permuted
    exact (Plan.Rearranges.append (.refl _) removes).append (.refl _)

theorem rearranges_carryOut {diff diff' : Diff} (same : diff.SameButRemoved diff') :
    (planner.carryOut diff).Rearranges (planner.carryOut diff') := by
  have drops := planner.rearranges_dropTables (same.removed.map_perm fun _ _ same => same.name)
  have modifies := Plan.Rearranges.sequence_map same.modified fun _ _ =>
    planner.rearranges_modifyTable
  unfold carryOut
  rw [same.added, same.access]
  exact ((drops.append (.refl _)).append modifies).append (.refl _)

end Planner

/-- The order in which tables and fields are declared says nothing. It decides on the order of the
lists in a diff only, and the order of the old snapshot only on the order of removals, both in the
diff and in a migration. -/
theorem declaration_order_says_nothing {before before' after after' : Snapshot}
    (accepted : before.validate = .ok ()) (old : before.Reordered before')
    (new : after.Reordered after') :
    (Diff.between before after).Reordered (Diff.between before' after') ∧
    (Diff.between before after).SameButRemoved (Diff.between before' after) ∧
    ∀ (synthesizer : Synthesizer) (dialect : Dialect),
      SameOutcome (synthesizer.migrate before after dialect)
        (synthesizer.migrate before' after dialect) := by
  have valid := Snapshot.Valid.ofValidate accepted
  have same : (Diff.between before after).SameButRemoved (Diff.between before' after) :=
    Diff.between_sameButRemoved valid old
  refine ⟨Diff.between_reordered valid old new, same, fun synthesizer dialect => ?_⟩
  have plans := Planner.rearranges_carryOut
    { synthesizer with dialect, target := after } same
  unfold Synthesizer.migrate Synthesizer.synthesize
  rw [← same.access]
  exact plans.sameOutcome dialect _

/-- The snapshot with its tables, and the fields of each table, in the opposite order. -/
def Snapshot.reversed (snapshot : Snapshot) : Snapshot where
  tables := snapshot.tables.reverse.map fun table => { table with fields := table.fields.reverse }

theorem Snapshot.reordered_reversed (snapshot : Snapshot) :
    snapshot.Reordered snapshot.reversed := by
  refine ⟨snapshot.tables.reverse, (List.reverse_perm _).symm, ?_⟩
  rw [reversed, List.forall₂_map_right_iff, List.forall₂_same]
  exact fun table _ => ⟨rfl, (List.reverse_perm _).symm, rfl⟩

/-- A forum that keeps drafts and notes, and for every post its author and a mood. -/
def oldForum : Snapshot where
  tables := [
    { name := "drafts", fields := [{ name := "text", type := .text }] },
    { name := "notes", fields := [{ name := "text", type := .text }] },
    { name := "posts"
      fields := [
        { name := "id", type := .uuid, nullable := false, primaryKey := true },
        { name := "title", type := .text },
        { name := "author", type := .uuid, foreignKey := some { table := "users", field := "id" } },
        { name := "mood", type := .text }] },
    { name := "users"
      fields := [{ name := "id", type := .uuid, nullable := false, primaryKey := true }] }]

/-- A forum of posts without an author. -/
def newForum : Snapshot where
  tables := [
    { name := "users"
      fields := [{ name := "id", type := .uuid, nullable := false, primaryKey := true }] },
    { name := "posts"
      fields := [
        { name := "id", type := .uuid, nullable := false, primaryKey := true },
        { name := "title", type := .text, nullable := false },
        { name := "read_at", type := .datetime }]
      access := { read := .expr (.isNull (.field "read_at")) } }]

/-- Read backwards, the old forum loses its two tables and the two columns of its posts in the
opposite order. -/
theorem declaration_order_says_nothing_forum :
    oldForum.validate = .ok () ∧ oldForum.Reordered oldForum.reversed ∧
    newForum.Reordered newForum.reversed ∧
    (Diff.between oldForum newForum).Reordered
      (Diff.between oldForum.reversed newForum.reversed) ∧
    (Diff.between oldForum newForum).SameButRemoved (Diff.between oldForum.reversed newForum) ∧
    SameOutcome (({} : Synthesizer).migrate oldForum newForum .postgres)
      (({} : Synthesizer).migrate oldForum.reversed newForum .postgres) ∧
    (∃ m m', ({} : Synthesizer).migrate oldForum newForum .postgres = .ok m ∧
      ({} : Synthesizer).migrate oldForum.reversed newForum .postgres = .ok m' ∧
      m.sql ≠ m'.sql) := by
  have accepted : oldForum.validate = .ok () := by decide
  have old := oldForum.reordered_reversed
  have new := newForum.reordered_reversed
  obtain ⟨diffs, removals, migrations⟩ := declaration_order_says_nothing accepted old new
  exact ⟨accepted, old, new, diffs, removals, migrations {} .postgres, _, _, rfl, rfl, by decide⟩

end SchemaDelta
