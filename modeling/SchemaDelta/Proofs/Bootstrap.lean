import SchemaDelta.Proofs.Convergence
import SchemaDelta.Proofs.ForeignKeys.Added
import SchemaDelta.Proofs.Policies.Convergence
import SchemaDelta.Proofs.Quoting.Statements
import SchemaDelta.Proofs.Rendering

/-!
# Bootstrapping

Bootstrapping a valid snapshot creates it from nothing. No statement creates what is there already,
and no constraint comes before the column that it refers to: bootstrapping is the migration from a
snapshot without tables, where all tables are new. What a database has in the end are the tables of
the snapshot with their columns, and on Postgres with one constraint for each foreign key and one
policy for each operation.
-/

namespace SchemaDelta

namespace Plan

theorem nothing_append (plan : Plan) : nothing ++ plan = plan := rfl

theorem append_nothing (plan : Plan) : plan ++ nothing = plan := by
  change Plan.append plan nothing = plan
  rcases plan with ⟨steps, failure⟩
  cases failure <;> simp [Plan.append, nothing]

end Plan

/-- From a snapshot without tables everything is new. -/
theorem Diff.between_empty (snapshot : Snapshot) :
    Diff.between {} snapshot =
      { added := snapshot.tables, access := snapshot.tables.map .ofNewTable } := by
  simp [Diff.between, Snapshot.lastTable?]

/-- Bootstrapping a snapshot is migrating to it from one without tables. -/
theorem Planner.bootstrap_eq_carryOut (planner : Planner) :
    planner.bootstrap = planner.carryOut (.between {} planner.target) := by
  rw [Diff.between_empty]
  simp only [carryOut, List.map_nil, Plan.sequence, Plan.nothing_append, Plan.append_nothing]
  rfl

/-- Bootstrapping a snapshot and carrying out its diff from a snapshot without tables give the same
migration, or the same error. -/
theorem bootstrap_eq_synthesize_from_empty (synthesizer : Synthesizer) (snapshot : Snapshot)
    (dialect : Dialect) :
    synthesizer.bootstrap snapshot dialect =
      synthesizer.synthesize (.between {} snapshot) snapshot dialect := by
  have access : (Diff.between {} snapshot).access = snapshot.tables.map .ofNewTable := by
    rw [Diff.between_empty]
  rw [Synthesizer.bootstrap, Synthesizer.synthesize, Synthesizer.bootstrapPlan,
    Synthesizer.synthesisPlan, Planner.bootstrap_eq_carryOut, access]

/-- The database of a valid snapshot has what the snapshot declares. -/
theorem Database.realizes_ofSnapshot {dialect : Dialect} {snapshot : Snapshot}
    (valid : snapshot.Valid) :
    (ofSnapshot dialect snapshot).Realizes (fun _ field state => state = .ofField dialect field)
      snapshot where
  tables name := by
    rw [ofSnapshot, Option.isSome_map, Snapshot.table?_isSome_iff]
  columns table member := by
    refine ⟨.ofTable dialect table, ?_, fun name => ?_, fun field declared => ⟨_, ?_, rfl⟩⟩
    · rw [ofSnapshot, valid.table?_eq_some_iff.mpr ⟨member, rfl⟩, Option.map_some]
    · rw [Columns.ofTable, Option.isSome_map, Table.field?_isSome_iff]
    · rw [Columns.ofTable, (valid.field?_eq_some_iff member).mpr ⟨declared, rfl⟩, Option.map_some]

/-- A column of the table has a foreign key by the name of this constraint. -/
def Database.HasConstraint (database : Database) (table name : String) : Prop :=
  ∃ column, Sql.foreignKeyName table column = name ∧ (database.foreignKey? table column).isSome

namespace Statement

/-- Nothing that the statement creates is there already, and what a constraint refers to is. -/
def Admissible (database : Database) (access : DatabaseAccess) : Statement → Prop
  | createTable table _ => database table = none
  | addForeignKey table column key =>
    ¬ database.HasConstraint table (Sql.foreignKeyName table column) ∧
      (database.column? table column).isSome ∧ (database.column? key.table key.field).isSome
  | createPolicy table operation _ =>
    ∃ found, access table = some found ∧ found.policies (Sql.policyName table operation) = none
  | _ => True

/-- Whether the statement adds a foreign key as a constraint. -/
def addsConstraint : Statement → Bool
  | addForeignKey _ _ _ => true
  | _ => false

/-- Whether the statement is about row security or policies. -/
def securesRows : Statement → Bool
  | enableRowSecurity _ | dropPolicy _ _ | createPolicy _ _ _ => true
  | _ => false

variable {database next : Database} {access : DatabaseAccess} {s : Statement}

theorem free_of_execute {table : String} {columns : List Column}
    (executed : database.execute (.createTable table columns) = some next) :
    database table = none := by
  cases Database.executes_of_execute executed with
  | created _ _ free => exact free
  | altered _ _ _ on => cases on

/-- A constraint is added to a column that is there and has none yet. -/
theorem unconstrained_of_execute {table column : String} {key : ForeignKey}
    (executed : database.execute (.addForeignKey table column key) = some next) :
    ¬ database.HasConstraint table (Sql.foreignKeyName table column) ∧
      (database.column? table column).isSome := by
  obtain ⟨state, final, held, changed⟩ := Database.alter_of_onColumn ⟨rfl, rfl⟩ executed
  constructor
  · rintro ⟨other, named, keyed⟩
    obtain rfl := Sql.foreignKeyName_injective table named
    simp only [ColumnState.alter, Option.ite_none_right_eq_some] at changed
    rw [Database.foreignKey?, held, Option.bind_some] at keyed
    simp [Option.isNone_iff_eq_none.mp changed.1] at keyed
  · rw [held]
    rfl

end Statement

/-- The constraints for the foreign keys of a snapshot. -/
def Snapshot.constraints (snapshot : Snapshot) : List Statement :=
  snapshot.tables.flatMap fun table => table.fields.filterMap fun field =>
    field.foreignKey.map (.addForeignKey table.name field.name)

namespace Planner

/-- Row security is in force, and for every operation there is one policy with the SQL of its
condition, and there are no others. -/
structure Secures (planner : Planner) (table : Table) (access : TableAccess) : Prop where
  rowSecurity : access.rowSecurity = true
  named : access.NamedFor table.name
  policies : ∀ operation, ∃ predicate,
    access.policies (Sql.policyName table.name operation) = some ⟨operation, predicate⟩ ∧
      planner.RendersCondition table.name (table.access.get operation) predicate

/-- A script that builds the target from nothing. -/
structure Builds (planner : Planner) (depends : String → Policy → Bool)
    (script : List Statement) : Prop where
  admissible : ∀ earlier s later, script = earlier ++ s :: later → ∃ database access,
    Database.empty.run earlier = some database ∧
      DatabaseAccess.empty.run depends earlier = some access ∧ s.Admissible database access
  realized : ∃ database, Database.empty.run script = some database ∧
    database.Realizes (fun _ field state => state = .ofField planner.dialect field) planner.target
  declared : ∀ table ∈ planner.target.tables, ∃ columns, .createTable table.name columns ∈ script ∧
    List.Forall₂ (planner.Declares table.name) table.fields columns
  constrained : script.filter Statement.addsConstraint =
    if planner.dialect = .postgres then planner.target.constraints else []
  secured : planner.dialect = .postgres → ∃ access,
    DatabaseAccess.empty.run depends script = some access ∧
      (∀ name, (access name).isSome ↔ name ∈ planner.target.tableNames) ∧
      ∀ table ∈ planner.target.tables, ∃ found, access table.name = some found ∧
        planner.Secures table found
  unsecured : planner.dialect ≠ .postgres → ∀ s ∈ script, s.securesRows = false

variable {planner : Planner} {depends : String → Policy → Bool}

theorem supportsPolicies_iff :
    planner.dialect.supportsPolicies = true ↔ planner.dialect = .postgres := by
  cases planner.dialect <;> decide

section Constraints

theorem statements_addConstraint (planner : Planner) (table column : String)
    (key : Option ForeignKey) :
    (planner.addConstraint table column key).statements =
      if planner.dialect = .postgres then (key.map (.addForeignKey table column)).toList
      else [] := by
  cases key with
  | none => simp [addConstraint]
  | some key => cases dialect : planner.dialect <;>
      simp [addConstraint, dialect, Dialect.usesSeparateForeignKeys, Dialect.isEmbedded]

theorem statements_addConstraints (planner : Planner) (table : Table) :
    (planner.addConstraints table).statements =
      if planner.dialect = .postgres then
        table.fields.filterMap fun field =>
          field.foreignKey.map (.addForeignKey table.name field.name)
      else [] := by
  rw [addConstraints, Plan.statements_sequence_map fun _ _ => complete_addConstraint _]
  simp only [statements_addConstraint]
  split
  · rw [List.filterMap_eq_flatMap_toList]
  · exact List.flatMap_eq_nil_iff.mpr fun _ _ => rfl

/-- Among the statements of a bootstrap the constraints are those for the foreign keys of the
target, in their order. -/
theorem filter_addsConstraint_bootstrap (complete : planner.bootstrap.Complete) :
    planner.bootstrap.statements.filter Statement.addsConstraint =
      if planner.dialect = .postgres then planner.target.constraints else [] := by
  obtain ⟨creates, policies⟩ := Plan.complete_append.mp complete
  rw [bootstrap, Plan.statements_append creates, statements_createTables creates]
  have noneCreated : (planner.target.tables.flatMap fun table =>
      (planner.createTable table).statements).filter Statement.addsConstraint = [] := by
    refine List.filter_eq_nil_iff.mpr fun s member => ?_
    obtain ⟨table, declared, created⟩ := List.mem_flatMap.mp member
    obtain ⟨columns, -, create⟩ :=
      exists_statements_createTable (complete_createTables_iff.mp creates table declared)
    rw [create] at created
    obtain rfl := List.mem_singleton.mp created
    exact Bool.false_ne_true
  have nonePolicies : (planner.policies (planner.target.tables.map .ofNewTable)).statements.filter
      Statement.addsConstraint = [] := by
    refine List.filter_eq_nil_iff.mpr fun s member adds => ?_
    obtain ⟨change, -, keeps⟩ := all_policies _ s member
    rcases keepsColumns_cases keeps with rfl | ⟨operation, rfl⟩ | ⟨operation, predicate, rfl⟩
    · cases adds
    · cases adds
    · cases adds
  rw [List.filter_append, List.filter_append, noneCreated, nonePolicies, List.nil_append,
    List.append_nil]
  simp only [statements_addConstraints]
  split
  · refine List.filter_eq_self.mpr fun s member => ?_
    obtain ⟨table, -, among⟩ := List.mem_flatMap.mp member
    obtain ⟨field, -, adds⟩ := List.mem_filterMap.mp among
    obtain ⟨key, -, rfl⟩ := Option.map_eq_some_iff.mp adds
    rfl
  · rw [List.flatMap_eq_nil_iff.mpr fun _ _ => rfl, List.filter_nil]

end Constraints

section Runs

theorem statements_policies_of_not_supported (planner : Planner) (changes : List AccessChange)
    (unsupported : planner.dialect.supportsPolicies = false) :
    (planner.policies changes).statements = [] := by
  have silent : (planner.policies changes).All fun _ => False := by
    refine Plan.all_append (Plan.all_sequence ?_) (Plan.all_sequence ?_)
    · refine List.forall_mem_map.mpr fun change _ => ?_
      rw [policyBlock_of_not_supported unsupported]
      exact Plan.all_nothing
    · refine List.forall_mem_map.mpr fun change _ => ?_
      rw [policyBlock_of_not_supported unsupported]
      exact Plan.all_execute.mpr (List.forall_mem_nil _)
  exact List.eq_nil_iff_forall_not_mem.mpr silent

variable (valid : planner.target.Valid) (complete : planner.bootstrap.Complete)

include valid complete

/-- Policies are created one after the other, on any dialect that has them. -/
theorem exists_run_bootstrap_access (depends : String → Policy → Bool) :
    ∃ access, DatabaseAccess.empty.run depends planner.bootstrap.statements = some access := by
  cases supported : planner.dialect.supportsPolicies with
  | true =>
    obtain ⟨access, ran, -⟩ := run_bootstrap_access depends valid supported complete
    exact ⟨access, ran⟩
  | false =>
    obtain ⟨creates, -⟩ := Plan.complete_append.mp complete
    rw [bootstrap, Plan.statements_append creates,
      statements_policies_of_not_supported planner _ supported, List.append_nil]
    obtain ⟨access, ran, -⟩ := run_createTables_access depends DatabaseAccess.sound_empty
      planner.target.tables valid.tablesDistinct (fun _ _ => not_false) creates
    exact ⟨access, ran⟩

/-- No constraint is reached before the column that it refers to is there. -/
theorem target_column_of_bootstrap {table column : String} {key : ForeignKey}
    {earlier later : List Statement} {database : Database}
    (split : planner.bootstrap.statements = earlier ++ .addForeignKey table column key :: later)
    (ran : Database.empty.run earlier = some database) :
    (database.column? key.table key.field).isSome := by
  have among : .addForeignKey table column key ∈
      planner.bootstrap.statements.filter Statement.addsConstraint := by
    rw [split, List.mem_filter]
    exact ⟨by simp, rfl⟩
  have postgres : planner.dialect = .postgres := by
    by_contra other
    rw [filter_addsConstraint_bootstrap complete, if_neg other] at among
    cases among
  have inPlace : planner.dialect.isEmbedded = false := by rw [postgres]; rfl
  rw [bootstrap_eq_carryOut] at split complete
  have validEmpty : ({} : Snapshot).Valid := .ofValidate (by decide)
  obtain ⟨reached, underway⟩ :=
    underway_of_split validEmpty valid rfl inPlace complete split
  obtain rfl : database = reached := Option.some.inj (ran.symm.trans underway.ran)
  exact underway.target_column_isSome_iff.mpr fun later => Bool.false_ne_true later.1

theorem admissible_of_bootstrap (depends : String → Policy → Bool) {earlier later : List Statement}
    {s : Statement} (split : planner.bootstrap.statements = earlier ++ s :: later) :
    ∃ database access, Database.empty.run earlier = some database ∧
      DatabaseAccess.empty.run depends earlier = some access ∧ s.Admissible database access := by
  have whole := run_bootstrap valid complete
  obtain ⟨final, secured⟩ := exists_run_bootstrap_access valid complete depends
  rw [split] at whole secured
  obtain ⟨database, next, ran, executed⟩ := foldlM_reach whole
  obtain ⟨access, nextAccess, ranAccess, executedAccess⟩ := foldlM_reach secured
  refine ⟨database, access, ran, ranAccess, ?_⟩
  cases s with
  | createTable table columns => exact Statement.free_of_execute executed
  | addForeignKey table column key =>
    obtain ⟨free, own⟩ := Statement.unconstrained_of_execute executed
    exact ⟨free, own, target_column_of_bootstrap valid complete split ran⟩
  | createPolicy table operation predicate => exact Statement.unclaimed_of_execute executedAccess
  | _ => trivial

omit valid in
/-- Every table is created with a column for each of its fields. -/
theorem createTable_of_bootstrap {table : Table} (member : table ∈ planner.target.tables) :
    ∃ columns, .createTable table.name columns ∈ planner.bootstrap.statements ∧
      List.Forall₂ (planner.Declares table.name) table.fields columns := by
  obtain ⟨creates, -⟩ := Plan.complete_append.mp complete
  obtain ⟨columns, made, create⟩ :=
    exists_statements_createTable (complete_createTables_iff.mp creates table member)
  refine ⟨columns, ?_, (mapM_eq_ok_iff.mp made).imp fun _ _ => declares_of_column⟩
  rw [bootstrap, Plan.statements_append creates, statements_createTables creates]
  refine List.mem_append_left _ (List.mem_append_left _ (List.mem_flatMap.mpr ⟨table, member, ?_⟩))
  rw [create]
  exact List.mem_singleton.mpr rfl

omit valid in
/-- The policies have the SQL of their conditions. -/
theorem renders_of_bootstrap (postgres : planner.dialect = .postgres) {table : Table}
    (member : table ∈ planner.target.tables) (operation : Operation) :
    planner.RendersCondition table.name (table.access.get operation)
      (planner.predicateText table.name operation (table.access.get operation)) := by
  obtain ⟨-, policies⟩ := Plan.complete_append.mp complete
  exact renders_predicateText (supportsPolicies_iff.mpr postgres) policies
    (List.mem_map_of_mem member) (AccessChange.get_ofNewTable table operation)

/-- Every table ends with the policies of its operations. -/
theorem secures_of_bootstrap (postgres : planner.dialect = .postgres)
    (depends : String → Policy → Bool) :
    ∃ access, DatabaseAccess.empty.run depends planner.bootstrap.statements = some access ∧
      (∀ name, (access name).isSome ↔ name ∈ planner.target.tableNames) ∧
      ∀ table ∈ planner.target.tables, ∃ found, access table.name = some found ∧
        planner.Secures table found := by
  have supported := supportsPolicies_iff.mpr postgres
  obtain ⟨access, ran, recorded, sound⟩ := run_bootstrap_access depends valid supported complete
  refine ⟨access, ran, sound.tables, fun table member => ⟨_, recorded table member, rfl, ?_, ?_⟩⟩
  · exact namedFor_recordedPolicies planner (.ofNewTable table)
  · intro operation
    exact ⟨_, recordedPolicies_ofNewTable planner table operation,
      renders_of_bootstrap complete postgres member operation⟩

theorem builds_of_bootstrap (depends : String → Policy → Bool) :
    planner.Builds depends planner.bootstrap.statements where
  admissible _ _ _ split := admissible_of_bootstrap valid complete depends split
  realized := ⟨_, run_bootstrap valid complete, Database.realizes_ofSnapshot valid⟩
  declared _ member := createTable_of_bootstrap complete member
  constrained := filter_addsConstraint_bootstrap complete
  secured postgres := secures_of_bootstrap valid complete postgres depends
  unsecured other s member := by
    have unsupported : planner.dialect.supportsPolicies = false :=
      Bool.eq_false_iff.mpr (supportsPolicies_iff.not.mpr other)
    obtain ⟨creates, -⟩ := Plan.complete_append.mp complete
    rw [bootstrap, Plan.statements_append creates,
      statements_policies_of_not_supported planner _ unsupported, List.append_nil] at member
    have unrelated : (planner.createTables planner.target.tables).All
        fun s => s.securesRows = false :=
      all_createTables_of (fun _ _ _ _ => rfl) fun _ _ _ => rfl
    exact unrelated s member

end Runs

end Planner

/-- Bootstrapping a snapshot that is accepted builds it from nothing, and leaves nothing to the
user. -/
theorem bootstrap_builds_snapshot {synthesizer : Synthesizer} {snapshot : Snapshot}
    {dialect : Dialect} {migration : Migration} (depends : String → Policy → Bool)
    (accepted : snapshot.validate = .ok ())
    (made : synthesizer.bootstrap snapshot dialect = .ok migration) :
    ({ synthesizer with dialect, target := snapshot } : Planner).Builds depends
        migration.statements ∧
      migration.warnings = [] := by
  obtain ⟨complete, rfl⟩ := Plan.toMigration_eq_ok_iff.mp made
  refine ⟨Planner.builds_of_bootstrap (.ofValidate accepted) complete depends, ?_⟩
  exact Plan.silent_append (Planner.silent_createTables _) (Planner.silent_policies _)

/-- Two tables that refer to each other. -/
def mutualTables : Snapshot where
  tables := [
    { name := "users"
      fields := [
        { name := "id", type := .uuid, nullable := false, primaryKey := true },
        { name := "home", type := .uuid, foreignKey := some { table := "places", field := "id" } }]
      access := { delete := .expr (.compare .eq (.field "home.owner") (.var "auth.uid")) } },
    { name := "places"
      fields := [
        { name := "id"
          type := .uuid
          nullable := false
          default := some (.computed (.call "uuid" [])) },
        { name := "owner"
          type := .uuid
          foreignKey := some { table := "users", field := "id" } }] }]

/-- Each of two tables that refer to each other is created before the constraints. -/
theorem bootstrap_builds_snapshot_mutual :
    ∃ migration : Migration,
      ({} : Synthesizer).bootstrap mutualTables .postgres = .ok migration ∧
      ({ dialect := .postgres, target := mutualTables } : Planner).Builds (fun _ _ => false)
        migration.statements ∧
      migration.statements.length = 22 := by
  refine ⟨_, rfl, ?_, rfl⟩
  exact (bootstrap_builds_snapshot (fun _ _ => false)
    (by decide : mutualTables.validate = .ok ())
    (rfl : ({} : Synthesizer).bootstrap mutualTables .postgres = .ok _)).1

end SchemaDelta
