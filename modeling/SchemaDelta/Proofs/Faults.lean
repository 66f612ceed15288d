import SchemaDelta.Proofs.Bootstrap

/-!
# Faults of a target

A migration cannot be planned only because of the snapshot that it leads to: an expression of one of
its defaults or conditions does not compile. Bootstrapping that snapshot compiles all of them, for
the same tables, so a snapshot that can be bootstrapped can be migrated to, whatever there was
before.
-/

namespace SchemaDelta

namespace Planner

/-- What is wrong with a target: an expression that does not compile on its table. The conditions
count where there are policies. -/
inductive Fault (planner : Planner) : SchemaError → Prop
  | default {table : Table} {field : Field} {e : Expr} {cause : CompileError}
    (declared : table ∈ planner.target.tables) (among : field ∈ table.fields)
    (computed : field.default = some (.computed e))
    (uncompiled : planner.compiler (planner.scope table.name) e.uppercaseCalls = .error cause) :
    Fault planner (.defaultCompile table.name field.name cause)
  | condition {table : Table} {operation : Operation} {e : Expr} {cause : CompileError}
    (supported : planner.dialect.supportsPolicies = true)
    (declared : table ∈ planner.target.tables) (guarded : table.access.get operation = .expr e)
    (uncompiled : planner.compiler (planner.scope table.name) e = .error cause) :
    Fault planner (.policyCompile table.name operation cause)

variable {planner : Planner}

/-- A target that can be bootstrapped has no faults. -/
theorem not_fault_of_bootstrap (complete : planner.bootstrap.Complete) (e : SchemaError) :
    ¬ planner.Fault e := by
  intro fault
  cases fault with
  | @default table field expr cause declared among computed uncompiled =>
    obtain ⟨creates, -⟩ := Plan.complete_append.mp complete
    obtain ⟨columns, made, -⟩ :=
      exists_statements_createTable (complete_createTables_iff.mp creates table declared)
    obtain ⟨column, made⟩ := exists_of_mapM made among
    obtain ⟨sql, -, renders⟩ := (declares_of_column made).default _ computed
    cases renders with
    | computed compiled =>
      rw [uncompiled] at compiled
      cases compiled
  | @condition table operation expr cause supported declared guarded uncompiled =>
    have renders :=
      renders_of_bootstrap complete (supportsPolicies_iff.mp supported) declared operation
    rw [guarded] at renders
    cases renders with
    | expr compiled =>
      rw [uncompiled] at compiled
      cases compiled

section Target

variable {table : Table} (declared : table ∈ planner.target.tables)

include declared

theorem fault_of_defaultSql {field : Field} {value : DefaultValue} {e : SchemaError}
    (among : field ∈ table.fields) (default : field.default = some value)
    (failed : planner.defaultSql table.name field.name value = .error e) : planner.Fault e := by
  obtain ⟨expr, cause, rfl, uncompiled, rfl⟩ := defaultSql_eq_error_iff.mp failed
  exact .default declared among default uncompiled

theorem fault_of_column {field : Field} {e : SchemaError} (among : field ∈ table.fields)
    (failed : planner.column table.name field = .error e) : planner.Fault e := by
  obtain ⟨value, default, failed⟩ := column_eq_error_iff.mp failed
  exact fault_of_defaultSql declared among default failed

theorem failsBy_createTable : (planner.createTable table).FailsBy planner.Fault := by
  refine Plan.failsBy_ofResult (fun columns _ => Plan.failsBy_of_complete rfl) fun e failed => ?_
  obtain ⟨field, among, failed⟩ := exists_of_mapM_eq_error failed
  exact fault_of_column declared among failed

theorem failsBy_addField {field : Field} (among : field ∈ table.fields) :
    (planner.addField table.name field).FailsBy planner.Fault := by
  refine Plan.failsBy_ofResult (fun column _ => ?_) fun e failed => ?_
  · exact Plan.failsBy_of_complete (Plan.complete_append.mpr ⟨rfl, complete_addConstraint _⟩)
  · exact fault_of_column declared among failed

/-- The default that a column is given is that of a field of the target. -/
theorem failsBy_alterDefault {field : Field} (among : field ∈ table.fields)
    {change : Change (Option DefaultValue)} (given : change.after = field.default) :
    (planner.alterDefault table.name field.name change).FailsBy planner.Fault := by
  unfold alterDefault
  split
  · rw [given]
    cases default : field.default with
    | none => exact Plan.failsBy_of_complete rfl
    | some value =>
      refine Plan.failsBy_ofResult (fun rendered _ => Plan.failsBy_of_complete rfl) ?_
      intro e failed
      exact fault_of_defaultSql declared among default (renderDefault_eq_error_iff.mp failed)
  · exact Plan.failsBy_of_complete rfl

theorem failsBy_alterConstraints {field : Field} (among : field ∈ table.fields) (old : Field) :
    (planner.alterConstraints table.name (.between old field)).FailsBy planner.Fault := by
  refine Plan.failsBy_append (Plan.failsBy_append ?nullable ?default) ?foreignKey
  case nullable => exact Plan.failsBy_of_complete (complete_onChange complete_alterNullable)
  case default =>
    cases changed : (FieldModification.between old field).default with
    | none => exact Plan.failsBy_of_complete rfl
    | some change =>
      obtain ⟨-, rfl⟩ := Change.between_eq_some_iff.mp changed
      exact failsBy_alterDefault declared among rfl
  case foreignKey => exact Plan.failsBy_of_complete (complete_onChange complete_alterForeignKey)

/-- A column is altered as some field of the target asks. The declaration that a rebuild looks up
may be another one of that name, but a rebuild compiles nothing. -/
theorem failsBy_modifyField {field : Field} (among : field ∈ table.fields) (old : Field)
    {declaration : Table} (named : declaration.name = table.name) :
    (planner.modifyField declaration (.between old field)).FailsBy planner.Fault := by
  have constraints := failsBy_alterConstraints declared among old
  rw [← named] at constraints
  unfold modifyField
  refine Plan.failsBy_append ?_ (Plan.failsBy_of_complete (complete_onChange_warn _ _))
  cases (FieldModification.between old field).type with
  | none => exact constraints
  | some change =>
    simp only
    split
    · exact Plan.failsBy_append (Plan.failsBy_of_complete rfl) constraints
    · exact Plan.failsBy_of_complete (complete_rebuildColumn _ _ _)

/-- The table of a modification is found in the target. -/
theorem failsBy_modifyTable (old : Table) :
    (planner.modifyTable (.between old table)).FailsBy planner.Fault := by
  have found : (planner.target.table? table.name).isSome :=
    Snapshot.table?_isSome_iff.mpr (List.mem_map_of_mem declared)
  obtain ⟨declaration, found⟩ := Option.isSome_iff_exists.mp found
  rw [modifyTable, TableModification.between_table, found]
  refine Plan.failsBy_append (Plan.failsBy_append ?added ?removed) ?modified
  case added =>
    refine Plan.failsBy_sequence (List.forall_mem_map.mpr fun field member => ?_)
    exact failsBy_addField declared (List.mem_of_mem_filter member)
  case removed =>
    refine Plan.failsBy_sequence (List.forall_mem_map.mpr fun field _ => ?_)
    exact Plan.failsBy_of_complete (Plan.complete_append.mpr ⟨complete_dropConstraint _, rfl⟩)
  case modified =>
    refine Plan.failsBy_sequence (List.forall_mem_map.mpr fun m member => ?_)
    obtain ⟨field, among, previous, rfl⟩ := TableModification.exists_of_mem_fieldsModified member
    exact failsBy_modifyField declared among previous (Snapshot.name_of_table? found)

/-- An access change that records the conditions of the table fails by one of them. -/
theorem fault_of_policyBlock {change : AccessChange} {e : SchemaError}
    (named : change.table = table.name)
    (conditions : ∀ operation rule, change.get operation = some rule →
      rule.after = table.access.get operation)
    (failed : planner.policyBlock change = .error e) : planner.Fault e := by
  unfold policyBlock at failed
  split at failed
  · rename_i supported
    rcases bind_eq_error_iff.mp failed with failed | ⟨policies, -, whole⟩
    · obtain ⟨⟨operation, rule⟩, among, failed⟩ := exists_of_mapM_eq_error failed
      have recorded := conditions operation rule (AccessChange.mem_changes.mp among)
      rcases bind_eq_error_iff.mp failed with failed | ⟨sql, -, whole⟩
      · obtain ⟨guard, cause, guarded, uncompiled, rfl⟩ := predicate_eq_error_iff.mp failed
        rw [named] at uncompiled ⊢
        exact .condition supported declared (recorded.symm.trans guarded) uncompiled
      · cases whole
    · cases whole
  · cases failed

end Target

theorem failsBy_createTables {tables : List Table}
    (declared : ∀ table ∈ tables, table ∈ planner.target.tables) :
    (planner.createTables tables).FailsBy planner.Fault := by
  refine Plan.failsBy_append (Plan.failsBy_sequence ?_) (Plan.failsBy_of_complete ?_)
  · exact List.forall_mem_map.mpr fun table member => failsBy_createTable (declared table member)
  · exact Plan.complete_sequence_map.mpr fun table _ => complete_addConstraints table

theorem failsBy_policies {changes : List AccessChange}
    (blocks : ∀ change ∈ changes, ∀ e, planner.policyBlock change = .error e → planner.Fault e) :
    (planner.policies changes).FailsBy planner.Fault := by
  refine Plan.failsBy_append (Plan.failsBy_sequence ?notes) (Plan.failsBy_sequence ?statements)
  case notes =>
    refine List.forall_mem_map.mpr fun change member => Plan.failsBy_ofResult ?_ (blocks _ member)
    intro block _
    unfold notePolicies
    split <;> exact Plan.failsBy_of_complete rfl
  case statements =>
    refine List.forall_mem_map.mpr fun change member => Plan.failsBy_ofResult ?_ (blocks _ member)
    exact fun block _ => Plan.failsBy_of_complete (Plan.complete_execute _)

/-- Whatever there was before, a migration is only kept back by the faults of its target. -/
theorem failsBy_carryOut (before : Snapshot) :
    (planner.carryOut (.between before planner.target)).FailsBy planner.Fault := by
  refine Plan.failsBy_append (Plan.failsBy_append (Plan.failsBy_append ?dropped ?created)
    ?modified) ?policies
  case dropped =>
    refine Plan.failsBy_sequence (List.forall_mem_map.mpr fun table _ => ?_)
    exact Plan.failsBy_of_complete rfl
  case created =>
    exact failsBy_createTables fun table member => List.mem_of_mem_filter member
  case modified =>
    refine Plan.failsBy_sequence (List.forall_mem_map.mpr fun m member => ?_)
    obtain ⟨table, declared, old, rfl⟩ := Diff.exists_of_mem_modified member
    exact failsBy_modifyTable declared old
  case policies =>
    refine failsBy_policies fun change member e failed => ?_
    obtain ⟨table, declared, named, conditions, -⟩ := Diff.exists_of_mem_access member
    exact fault_of_policyBlock declared named conditions failed

end Planner

/-- A snapshot that can be bootstrapped can be migrated to from any other, even with names that are
not unique. No migration misses a table of its target. -/
theorem migrate_succeeds_where_bootstrap_does (synthesizer : Synthesizer) (before after : Snapshot)
    (dialect : Dialect) :
    ((∃ created, synthesizer.bootstrap after dialect = .ok created) →
      ∃ migration, synthesizer.migrate before after dialect = .ok migration) ∧
    ∀ table, synthesizer.migrate before after dialect ≠ .error (.missingTargetTable table) := by
  have faulty : ∀ e, synthesizer.migrate before after dialect = .error e →
      ({ synthesizer with dialect, target := after } : Planner).Fault e := fun e failed =>
    Planner.failsBy_carryOut before e (Plan.toMigration_eq_error_iff.mp failed)
  constructor
  · rintro ⟨created, built⟩
    cases made : synthesizer.migrate before after dialect with
    | ok migration => exact ⟨migration, rfl⟩
    | error e =>
      have complete := (Plan.toMigration_eq_ok_iff.mp built).1
      exact absurd (faulty e made) (Planner.not_fault_of_bootstrap complete e)
  · intro table failed
    cases faulty _ failed

/-- Events that are declared twice, with two columns of one name. -/
def muddledEvents : Snapshot where
  tables := [
    { name := "events"
      fields := [
        { name := "at", type := .text },
        { name := "at", type := .datetime, nullable := false },
        { name := "kind", type := .text }] },
    { name := "events"
      fields := [{ name := "at", type := .number, default := some (.constant .null) }]
      access := { update := .always false } }]

/-- Events that are declared twice, with computed defaults and a condition. -/
def stampedEvents : Snapshot where
  tables := [
    { name := "events"
      fields := [
        { name := "at", type := .datetime, default := some (.computed (.call "now" [])) },
        { name := "day", type := .text, default := some (.computed (.call "current_date" [])) },
        { name := "at", type := .text, default := some (.computed (.call "uuid" [])) }]
      access := { read := .expr (.isNull (.field "kind")) } },
    { name := "events", fields := [{ name := "kind", type := .text }] }]

/-- Each of the two tables is compared with the last of that name before. -/
theorem migrate_succeeds_where_bootstrap_does_events :
    (∃ created, ({} : Synthesizer).bootstrap stampedEvents .postgres = .ok created) ∧
    (∃ migration,
      ({} : Synthesizer).migrate muddledEvents stampedEvents .postgres = .ok migration) ∧
    (Diff.between muddledEvents stampedEvents).modified.length = 2 ∧
    stampedEvents.validate ≠ .ok () := by
  have created : ∃ created, ({} : Synthesizer).bootstrap stampedEvents .postgres = .ok created :=
    ⟨_, rfl⟩
  have succeeds :=
    (migrate_succeeds_where_bootstrap_does {} muddledEvents stampedEvents .postgres).1 created
  exact ⟨created, succeeds, rfl, by decide⟩

end SchemaDelta
