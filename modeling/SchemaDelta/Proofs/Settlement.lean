import SchemaDelta.Proofs.Policies.Block
import SchemaDelta.Proofs.Settlement.Table

/-!
# Databases after a migration

The statements of a complete plan run on the database of the old snapshot, and they settle every
table of the new one: a new table is as declared, and a table that was there before is settled
column by column.
-/

namespace SchemaDelta

/-- What a migration makes of the database of a snapshot. -/
def Dialect.settled (dialect : Dialect) (before after : Snapshot) : Database := fun name =>
  (after.table? name).map (dialect.settledColumns (before.table? name))

/-- The columns of a new table before the foreign keys that are constraints of their own. -/
def Dialect.createdColumns (dialect : Dialect) (table : Table) : Columns := fun name =>
  (table.field? name).map fun field =>
    { ColumnState.ofField dialect field with foreignKey := dialect.inlineReference field }

namespace Planner

variable {planner : Planner}

theorem run_dropTables (database : Database) (tables : List Table) (cascade : Bool)
    (distinct : (tables.map Table.name).Nodup)
    (present : ∀ table ∈ tables, (database table.name).isSome) :
    database.run (tables.map fun table => .dropTable table.name cascade) =
      some (database.without (tables.map Table.name)
        (if cascade then tables.map Table.name else [])) := by
  induction tables generalizing database with
  | nil => simp [Database.run, Database.without_nil]
  | cons table tables ih =>
    obtain ⟨different, distinct⟩ := List.nodup_cons.mp distinct
    obtain ⟨first, others⟩ := List.forall_mem_cons.mp present
    have rest := ih (database.without [table.name] (if cascade then [table.name] else [])) distinct
      fun other member => by
        have apart : other.name ≠ table.name := fun same =>
          different (same ▸ List.mem_map_of_mem member)
        simpa [Database.without, apart] using others other member
    rw [List.map_cons, Database.run, List.foldlM_cons, Database.execute, if_pos first]
    refine Eq.trans rest (congrArg some ?_)
    rw [Database.without_without]
    cases cascade <;> rfl

theorem complete_addConstraints (table : Table) : (planner.addConstraints table).Complete :=
  Plan.complete_sequence_map.mpr fun _ _ => complete_addConstraint _

/-- A table is created by one statement, with a column for each field. -/
theorem exists_statements_createTable {table : Table}
    (complete : (planner.createTable table).Complete) :
    ∃ columns, table.fields.mapM (planner.column table.name) = .ok columns ∧
      (planner.createTable table).statements = [.createTable table.name columns] := by
  obtain ⟨columns, made, -⟩ := Plan.complete_ofResult.mp complete
  refine ⟨columns, made, ?_⟩
  rw [createTable, made, Plan.ofResult_ok, Plan.statements_execute]

theorem complete_createTables_iff {tables : List Table} :
    (planner.createTables tables).Complete ↔
      ∀ table ∈ tables, (planner.createTable table).Complete := by
  rw [createTables, Plan.complete_append, Plan.complete_sequence_map, and_iff_left_iff_imp]
  exact fun _ => Plan.complete_sequence_map.mpr fun table _ => complete_addConstraints table

theorem statements_createTables {tables : List Table}
    (complete : (planner.createTables tables).Complete) :
    (planner.createTables tables).statements =
      (tables.flatMap fun table => (planner.createTable table).statements) ++
      (tables.flatMap fun table => (planner.addConstraints table).statements) := by
  obtain ⟨creates, constraints⟩ := Plan.complete_append.mp complete
  rw [createTables, Plan.statements_append creates]
  rw [Plan.complete_sequence_map] at creates constraints
  rw [Plan.statements_sequence_map creates, Plan.statements_sequence_map constraints]

theorem all_createTables_of {P : Statement → Prop} {tables : List Table}
    (creates : ∀ table ∈ tables, ∀ columns,
      table.fields.mapM (planner.column table.name) = .ok columns →
        P (.createTable table.name columns))
    (constraints : ∀ table column key, P (.addForeignKey table column key)) :
    (planner.createTables tables).All P := by
  refine Plan.all_append (Plan.all_sequence ?_) (Plan.all_sequence ?_)
  · refine List.forall_mem_map.mpr fun table member => Plan.all_ofResult fun columns made => ?_
    exact Plan.all_execute.mpr (List.forall_mem_singleton.mpr (creates table member columns made))
  · refine List.forall_mem_map.mpr fun table _ => Plan.all_sequence ?_
    refine List.forall_mem_map.mpr fun field _ => ?_
    exact all_addConstraint_of fun key _ => constraints table.name field.name key

theorem complete_carryOut_iff {diff : Diff} :
    (planner.carryOut diff).Complete ↔
      (∀ table ∈ diff.added, (planner.createTable table).Complete) ∧
      (∀ m ∈ diff.modified, (planner.modifyTable m).Complete) ∧
      (planner.policies diff.access).Complete := by
  simp only [carryOut, Plan.complete_append, Plan.complete_sequence_map,
    complete_createTables_iff, and_assoc]
  rw [and_iff_right_iff_imp]
  exact fun _ table _ => Plan.complete_execute _

theorem statements_carryOut {diff : Diff} (complete : (planner.carryOut diff).Complete) :
    (planner.carryOut diff).statements =
      (diff.removed.flatMap fun table => (planner.dropTable table).statements) ++
      (planner.createTables diff.added).statements ++
      (diff.modified.flatMap fun m => (planner.modifyTable m).statements) ++
      (planner.policies diff.access).statements := by
  obtain ⟨untilModified, -⟩ := Plan.complete_append.mp complete
  obtain ⟨untilCreated, modifies⟩ := Plan.complete_append.mp untilModified
  obtain ⟨drops, -⟩ := Plan.complete_append.mp untilCreated
  rw [carryOut, Plan.statements_append untilModified, Plan.statements_append untilCreated,
    Plan.statements_append drops]
  rw [Plan.complete_sequence_map] at drops modifies
  rw [Plan.statements_sequence_map drops, Plan.statements_sequence_map modifies]

/-- The columns that a table is created with are those of its fields. -/
theorem ofList_columns {table : String} {fields : List Field} {columns : List Column}
    (made : fields.mapM (planner.column table) = .ok columns) :
    columns.map Column.name = fields.map Field.name ∧
      ∀ name, Columns.ofList columns name = (fields.find? (·.name == name)).map fun field =>
        { ColumnState.ofField planner.dialect field with
          foreignKey := planner.dialect.inlineReference field } := by
  rw [mapM_eq_ok_iff] at made
  induction made with
  | nil => exact ⟨rfl, fun _ => rfl⟩
  | @cons field column fields columns made _ ih =>
    obtain ⟨named, declared⟩ := column_spec made
    rcases ih with ⟨names, found⟩
    refine ⟨by simp [named, names], fun name => ?_⟩
    by_cases same : field.name = name
    · simp [Columns.ofList, named, declared, same]
    · simpa [Columns.ofList, named, same] using found name

theorem execute_createTable {database : Database} {table : Table}
    (distinct : (table.fields.map Field.name).Nodup) (free : database table.name = none)
    (complete : (planner.createTable table).Complete) :
    database.run (planner.createTable table).statements =
      some (Function.update database table.name (some (planner.dialect.createdColumns table))) := by
  obtain ⟨columns, made, create⟩ := exists_statements_createTable complete
  obtain ⟨names, found⟩ := ofList_columns made
  have created : Columns.ofList columns = planner.dialect.createdColumns table := funext found
  rw [create]
  simp [Database.run, Database.execute, free, names, distinct, created]

theorem all_addConstraints (table : Table) :
    (planner.addConstraints table).All (Statement.OnTable table.name) :=
  Plan.all_sequence (List.forall_mem_map.mpr fun _ _ s member =>
    (all_addConstraint _ s member).onTable)

/-- The foreign keys that are constraints of their own complete the columns of a new table. -/
theorem run_addConstraints {table : Table} (distinct : (table.fields.map Field.name).Nodup) :
    (planner.dialect.createdColumns table).run (planner.addConstraints table).statements =
      some (planner.dialect.settledColumns none table) := by
  rw [addConstraints, Plan.statements_sequence_map fun _ _ => complete_addConstraint _]
  have ran := foldlM_overlay Columns.alter (fun _ => True) (planner.dialect.createdColumns table)
    (planner.dialect.settledColumns none table) Field.name
    (fun field => (planner.addConstraint table.name field.name field.foreignKey).statements)
    table.fields distinct ?_ _ trivial fun _ _ => rfl
  · refine ran.trans (congrArg some ?_)
    funext name
    by_cases member : name ∈ table.fields.map Field.name
    · exact overlay_of_mem member
    · rw [overlay_of_not_mem member, Dialect.createdColumns, Dialect.settledColumns,
        Table.field?_eq_none_iff.mpr member]
      rfl
  · intro field member map _ same
    have found := (Table.field?_eq_some_iff distinct).mpr ⟨member, rfl⟩
    have goal : planner.dialect.settledColumns none table field.name =
        some (.ofField planner.dialect field) := by
      simp [Dialect.settledColumns, found]
    rw [Dialect.createdColumns, found, Option.map_some] at same
    rw [goal]
    exact ⟨Columns.run_of_column (fun s member => (all_addConstraint _ s member).2) same
      (run_addConstraint table.name field), trivial⟩

theorem run_createTables {database goal : Database} {tables : List Table}
    (distinct : (tables.map Table.name).Nodup)
    (fieldsDistinct : ∀ table ∈ tables, (table.fields.map Field.name).Nodup)
    (free : ∀ table ∈ tables, database table.name = none)
    (settled : ∀ table ∈ tables,
      goal table.name = some (planner.dialect.settledColumns none table))
    (complete : (planner.createTables tables).Complete) :
    database.run (planner.createTables tables).statements =
      some (overlay (tables.map Table.name) goal database) := by
  let created : Database := fun name =>
    (tables.find? (·.name == name)).map planner.dialect.createdColumns
  have found : ∀ table ∈ tables,
      created table.name = some (planner.dialect.createdColumns table) := fun table member => by
    simp only [created, (find?_name_eq_some_iff distinct).mpr ⟨member, rfl⟩, Option.map_some]
  have creates := complete_createTables_iff.mp complete
  rw [statements_createTables complete, Database.run_append]
  have first : database.run (tables.flatMap fun table => (planner.createTable table).statements) =
      some (overlay (tables.map Table.name) created database) := by
    refine foldlM_overlay Database.execute (fun _ => True) database created Table.name _ _ distinct
      ?_ _ trivial fun _ _ => rfl
    intro table member map _ same
    rw [found table member]
    exact ⟨execute_createTable (fieldsDistinct table member) (same.trans (free table member))
      (creates table member), trivial⟩
  have second : Database.run (overlay (tables.map Table.name) created database)
      (tables.flatMap fun table => (planner.addConstraints table).statements) =
      some (overlay (tables.map Table.name) goal
        (overlay (tables.map Table.name) created database)) := by
    refine foldlM_overlay Database.execute (fun _ => True) created goal Table.name _ _ distinct
      ?_ _ trivial fun table member => overlay_of_mem (List.mem_map_of_mem member)
    intro table member map _ same
    rw [settled table member]
    refine ⟨Database.run_of_table (fun s member => ?_) (same.trans (found table member))
      (run_addConstraints (fieldsDistinct table member)), trivial⟩
    exact (all_addConstraints table s member).1
  rw [first, Option.bind_some, second, overlay_overlay]

/-- The statement alters a table without changing its columns. -/
def KeepsColumns (table : String) (s : Statement) : Prop :=
  s.alteredTable? = some table ∧ ∀ columns : Columns, columns.alter s = some columns

/-- The statements that keep all columns are the ones about row security and policies. -/
theorem keepsColumns_cases {table : String} {s : Statement} (keeps : KeepsColumns table s) :
    s = .enableRowSecurity table ∨ (∃ operation, s = .dropPolicy table operation) ∨
      ∃ operation predicate, s = .createPolicy table operation predicate := by
  rcases keeps with ⟨on, keeps⟩
  -- without columns a statement about columns fails, or it adds one
  obtain ⟨next, same, alters⟩ : ∃ next : Columns, next = (fun _ => none) ∧
      Columns.Alters (fun _ => none) s next := ⟨_, rfl, Columns.alters_of_alter (keeps _)⟩
  cases alters with
  | added owner column free =>
    have added := congrFun same column.name
    simp at added
  | dropped _ _ _ found => cases found
  | renamed _ _ _ _ found => cases found
  | copied _ _ _ _ _ _ found => cases found
  | rowsSecured owner =>
    obtain rfl : owner = table := Option.some.inj on
    exact .inl rfl
  | policyDropped owner operation =>
    obtain rfl : owner = table := Option.some.inj on
    exact .inr (.inl ⟨operation, rfl⟩)
  | policyCreated owner operation predicate =>
    obtain rfl : owner = table := Option.some.inj on
    exact .inr (.inr ⟨operation, predicate, rfl⟩)
  | redeclared _ _ _ _ found => cases found

theorem all_policies (changes : List AccessChange) :
    (planner.policies changes).All fun s => ∃ change ∈ changes, KeepsColumns change.table s := by
  have block : ∀ change ∈ changes, ∀ statements, planner.policyBlock change = .ok statements →
      ∀ s ∈ statements, KeepsColumns change.table s := by
    intro change _ statements made s member
    cases supported : planner.dialect.supportsPolicies with
    | false =>
      rw [policyBlock_of_not_supported supported] at made
      cases made
      cases member
    | true =>
      rw [policyBlock_of_ok supported made, policyStatements] at member
      simp only [List.cons_append, List.mem_cons, List.mem_append, List.mem_map] at member
      rcases member with rfl | ⟨operation, -, rfl⟩ | ⟨rule, -, rfl⟩ <;> exact ⟨rfl, fun _ => rfl⟩
  refine Plan.all_append (Plan.all_sequence ?_) (Plan.all_sequence ?_)
  · refine List.forall_mem_map.mpr fun change _ => Plan.all_ofResult fun statements _ => ?_
    unfold notePolicies
    split
    · exact Plan.all_nothing
    · simp [Plan.All, Plan.statements, Step.statement?]
  · refine List.forall_mem_map.mpr fun change member => Plan.all_ofResult fun statements made => ?_
    exact Plan.all_execute.mpr fun s member' =>
      ⟨change, member, block change member statements made s member'⟩

/-- Policies do not change the database beside them. -/
theorem run_policies {database : Database} {changes : List AccessChange}
    (present : ∀ change ∈ changes, (database change.table).isSome) :
    database.run (planner.policies changes).statements = some database := by
  have still : ∀ script : List Statement,
      (∀ s ∈ script, ∃ change ∈ changes, KeepsColumns change.table s) →
        database.run script = some database := by
    intro script keeps
    induction script with
    | nil => rfl
    | cons s script ih =>
      obtain ⟨head, tail⟩ := List.forall_mem_cons.mp keeps
      rcases head with ⟨change, member, on, kept⟩
      obtain ⟨columns, found⟩ := Option.isSome_iff_exists.mp (present change member)
      rw [Database.run, List.foldlM_cons, Database.execute_eq_alterAt on,
        alterAt_eq_self found (kept columns)]
      exact ih tail
  exact still _ (all_policies changes)

/-- The database of a snapshot is the one that is created for it from nothing. -/
theorem run_bootstrap (valid : planner.target.Valid) (complete : planner.bootstrap.Complete) :
    Database.empty.run planner.bootstrap.statements =
      some (.ofSnapshot planner.dialect planner.target) := by
  obtain ⟨creates, -⟩ := Plan.complete_append.mp complete
  have created : Database.empty.run (planner.createTables planner.target.tables).statements =
      some (overlay planner.target.tableNames (Database.ofSnapshot planner.dialect planner.target)
        Database.empty) := by
    refine run_createTables valid.tablesDistinct valid.fieldsDistinct (fun _ _ => rfl) ?_ creates
    intro table member
    rw [Database.ofSnapshot, valid.table?_eq_some_iff.mpr ⟨member, rfl⟩, Option.map_some]
    rfl
  have whole : overlay planner.target.tableNames
      (Database.ofSnapshot planner.dialect planner.target) Database.empty =
        Database.ofSnapshot planner.dialect planner.target := by
    funext name
    by_cases member : name ∈ planner.target.tableNames
    · exact overlay_of_mem member
    · rw [overlay_of_not_mem member, Database.ofSnapshot,
        Snapshot.table?_eq_none_iff.mpr member]
      rfl
  rw [bootstrap, Plan.statements_append creates, Database.run_append, created, whole,
    Option.bind_some]
  refine run_policies (List.forall_mem_map.mpr fun table member => ?_)
  rw [Database.ofSnapshot, Option.isSome_map]
  exact Snapshot.table?_isSome_iff.mpr (List.mem_map_of_mem member)

/-- The tables whose loss drops the references to them. -/
def lostTables (planner : Planner) (before after : Snapshot) : List String :=
  if planner.dialect.dropsCascade planner.config.dropCascade then
    (Diff.between before after).removed.map Table.name
  else []

/-- Between the creation of tables and the modifications the tables that both snapshots have are as
before, but for lost references, and all others are settled. -/
def betweenDatabase (planner : Planner) (before after : Snapshot) : Database :=
  overlay ((Diff.between before after).added.map Table.name)
    (planner.dialect.settled before after)
    ((Database.ofSnapshot planner.dialect before).without
      ((Diff.between before after).removed.map Table.name) (planner.lostTables before after))

section Snapshots

variable {before after : Snapshot}

theorem lostTables_of_embedded (embedded : planner.dialect.isEmbedded = true) :
    planner.lostTables before after = [] := by
  simp [lostTables, Dialect.dropsCascade, embedded]

/-- The foreign keys of a valid snapshot lead to tables that are not lost. -/
theorem apart_of_valid (valid : after.Valid) {table : Table} (member : table ∈ after.tables) :
    ∀ field ∈ table.fields, ∀ key, field.foreignKey = some key →
      key.table ∉ planner.lostTables before after := by
  intro field fieldMember key declared lost
  obtain ⟨target, found, -⟩ := valid.target_declared member fieldMember declared
  have removed : key.table ∈ (Diff.between before after).removed.map Table.name := by
    unfold lostTables at lost
    split at lost
    · exact lost
    · cases lost
  have gone := Snapshot.table?_eq_none_iff.mpr (Diff.mem_removed_names.mp removed).2
  rw [found] at gone
  cases gone

theorem betweenDatabase_of_common {name : String} {old new : Table}
    (foundOld : before.table? name = some old) (found : after.table? name = some new) :
    planner.betweenDatabase before after name =
      some ((Columns.ofTable planner.dialect old).release (planner.lostTables before after)) := by
  have declaredOld : name ∈ before.tableNames := Snapshot.table?_isSome_iff.mp (by simp [foundOld])
  have declared : name ∈ after.tableNames := Snapshot.table?_isSome_iff.mp (by simp [found])
  rw [betweenDatabase, overlay_of_not_mem, Database.without, if_neg]
  · simp [Database.ofSnapshot, foundOld]
  · exact fun removed => (Diff.mem_removed_names.mp removed).2 declared
  · exact fun added => (Diff.mem_added_names.mp added).2 declaredOld

theorem betweenDatabase_of_not_common {name : String}
    (apart : (before.table? name).isSome → after.table? name = none) :
    planner.betweenDatabase before after name = planner.dialect.settled before after name := by
  cases new : after.table? name with
  | none =>
    have absent := Snapshot.table?_eq_none_iff.mp new
    rw [betweenDatabase, overlay_of_not_mem
      (fun added => absent (Diff.mem_added_names.mp added).1)]
    have goal : planner.dialect.settled before after name = none := by
      simp [Dialect.settled, new]
    rw [goal, Database.without]
    split
    · rfl
    · next kept =>
      have old : before.table? name = none := by
        rw [Snapshot.table?_eq_none_iff]
        exact fun declared => kept (Diff.mem_removed_names.mpr ⟨declared, absent⟩)
      simp [Database.ofSnapshot, old]
  | some table =>
    have old : before.table? name = none := by
      by_contra declared
      have gone := apart (Option.isSome_iff_ne_none.mpr declared)
      rw [new] at gone
      cases gone
    refine overlay_of_mem (Diff.mem_added_names.mpr ⟨?_, Snapshot.table?_eq_none_iff.mp old⟩)
    exact Snapshot.table?_isSome_iff.mp (by simp [new])

theorem run_removed (valid : before.Valid) :
    (Database.ofSnapshot planner.dialect before).run
        ((Diff.between before after).removed.flatMap fun table =>
          (planner.dropTable table).statements) =
      some ((Database.ofSnapshot planner.dialect before).without
        ((Diff.between before after).removed.map Table.name)
        (planner.lostTables before after)) := by
  simp only [dropTable, Plan.statements_execute, ← List.map_eq_flatMap]
  refine run_dropTables _ _ _ (Diff.removed_distinct valid.tablesDistinct) ?_
  intro table removed
  have found : before.table? table.name = some table :=
    valid.table?_eq_some_iff.mpr ⟨(Diff.mem_removed.mp removed).1, rfl⟩
  simp [Database.ofSnapshot, found]

theorem run_added (valid : after.Valid)
    (complete : (planner.createTables (Diff.between before after).added).Complete) :
    Database.run ((Database.ofSnapshot planner.dialect before).without
        ((Diff.between before after).removed.map Table.name) (planner.lostTables before after))
        (planner.createTables (Diff.between before after).added).statements =
      some (planner.betweenDatabase before after) := by
  refine run_createTables (Diff.added_distinct valid.tablesDistinct) ?_ ?_ ?_ complete
  · intro table added
    exact valid.fieldsDistinct table (Diff.mem_added.mp added).1
  · intro table added
    simp [Database.without, Database.ofSnapshot, (Diff.mem_added.mp added).2]
  · intro table added
    obtain ⟨member, new⟩ := Diff.mem_added.mp added
    simp [Dialect.settled, valid.table?_eq_some_iff.mpr ⟨member, rfl⟩, new]

section Valid

variable (validBefore : before.Valid) (validAfter : after.Valid)

include validBefore validAfter

theorem run_modifyTables (target : planner.target = after)
    (complete : ∀ m ∈ (Diff.between before after).modified, (planner.modifyTable m).Complete) :
    Database.run (planner.betweenDatabase before after)
        ((Diff.between before after).modified.flatMap fun m => (planner.modifyTable m).statements) =
      some (overlay ((Diff.between before after).modified.map TableModification.table)
        (planner.dialect.settled before after) (planner.betweenDatabase before after)) := by
  refine foldlM_overlay Database.execute (fun _ => True) (planner.betweenDatabase before after) _
    TableModification.table _ _ (Diff.modified_distinct validAfter.tablesDistinct) ?_ _ trivial
    fun _ _ => rfl
  intro m modified map _ same
  obtain ⟨table, member, old, foundOld, -, rfl⟩ :=
    (Diff.mem_modified validBefore.tablesDistinct).mp modified
  rw [TableModification.between_table] at same ⊢
  have found : after.table? table.name = some table :=
    validAfter.table?_eq_some_iff.mpr ⟨member, rfl⟩
  have goal : planner.dialect.settled before after table.name =
      some (planner.dialect.settledColumns (some old) table) := by
    simp [Dialect.settled, found, foundOld]
  rw [goal]
  refine ⟨Database.run_of_table (fun s member => (all_modifyTable _ s member).1)
    (same.trans (betweenDatabase_of_common foundOld found)) ?_, trivial⟩
  exact run_modifyTable (validAfter.fieldsDistinct table member)
    (validBefore.fieldsDistinct old (Snapshot.mem_of_table? foundOld))
    (apart_of_valid validAfter member) lostTables_of_embedded (target ▸ found)
    (complete _ modified)

/-- What is not modified was settled before the modifications. -/
theorem overlay_betweenDatabase :
    overlay ((Diff.between before after).modified.map TableModification.table)
        (planner.dialect.settled before after) (planner.betweenDatabase before after) =
      planner.dialect.settled before after := by
  funext name
  by_cases modified : name ∈ (Diff.between before after).modified.map TableModification.table
  · exact overlay_of_mem modified
  rw [overlay_of_not_mem modified]
  cases old : before.table? name with
  | none => exact betweenDatabase_of_not_common (by simp [old])
  | some table =>
    cases new : after.table? name with
    | none => exact betweenDatabase_of_not_common fun _ => new
    | some table' =>
      obtain ⟨member, named⟩ := validAfter.table?_eq_some_iff.mp new
      have unchanged : (TableModification.between table table').isEmpty = true := by
        by_contra changed
        refine modified (List.mem_map.mpr ⟨.between table table', ?_, named⟩)
        exact (Diff.mem_modified validBefore.tablesDistinct).mpr
          ⟨table', member, table, named ▸ old, by simpa using changed, rfl⟩
      rw [betweenDatabase_of_common old new, Dialect.settled, new, old, Option.map_some]
      exact congrArg some (release_eq_settledColumns (validAfter.fieldsDistinct table' member)
        (validBefore.fieldsDistinct table (Snapshot.mem_of_table? old))
        (apart_of_valid validAfter member) _ unchanged)

/-- The statements of a complete plan run on the database of the old snapshot and settle it. -/
theorem run_carryOut (target : planner.target = after)
    (complete : (planner.carryOut (.between before after)).Complete) :
    (Database.ofSnapshot planner.dialect before).run
        (planner.carryOut (.between before after)).statements =
      some (planner.dialect.settled before after) := by
  obtain ⟨creates, modifies, -⟩ := complete_carryOut_iff.mp complete
  rw [statements_carryOut complete, Database.run_append, Database.run_append, Database.run_append,
    run_removed validBefore, Option.bind_some,
    run_added validAfter (complete_createTables_iff.mpr creates), Option.bind_some,
    run_modifyTables validBefore validAfter target modifies, Option.bind_some,
    overlay_betweenDatabase validBefore validAfter]
  refine run_policies fun change member => ?_
  rw [Dialect.settled, Option.isSome_map]
  exact Snapshot.table?_isSome_iff.mpr (Diff.table_of_mem_access validBefore.tablesDistinct member)

end Valid

end Snapshots

end Planner

end SchemaDelta
