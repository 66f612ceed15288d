import SchemaDelta.Proofs.Schedule.Underway

/-!
# When foreign keys are added

A foreign key is added when its own column is there, and the table that it refers to. The column
that it refers to is there as well unless it is a new one of a table of both snapshots: such a
column is added when its table is worked on, and foreign keys of new tables, of tables that come
before it and of fields that come before it are added earlier.
-/

namespace SchemaDelta

/-- The column that a foreign key refers to is added later than the foreign key. -/
def Snapshot.TargetComesLater (before after : Snapshot) (table column : String)
    (key : ForeignKey) : Prop :=
  (before.table? key.table).isSome ∧ before.field? key.table key.field = none ∧
    (before.table? table = none ∨
      after.tablePosition table < after.tablePosition key.table ∨
      table = key.table ∧ before.field? table column = none ∧
        after.fieldPosition table column < after.fieldPosition key.table key.field)

instance (before after : Snapshot) (table column : String) (key : ForeignKey) :
    Decidable (before.TargetComesLater after table column key) :=
  inferInstanceAs (Decidable (_ ∧ _ ∧ (_ ∨ _ ∨ _ ∧ _ ∧ _)))

namespace Planner.Underway

variable {planner : Planner} {before after : Snapshot} {table column : String} {key : ForeignKey}
  {earlier : List Statement} {database : Database}
  (underway : planner.Underway before after (.addForeignKey table column key) earlier database)

include underway

/-- The field that the foreign key refers to. -/
theorem target_isSome : (after.field? key.table key.field).isSome := by
  obtain ⟨declared, -⟩ := underway.occasion
  obtain ⟨field, found, keyed⟩ := Option.bind_eq_some_iff.mp declared
  obtain ⟨owner, member, -, fieldMember, -⟩ := underway.validAfter.exists_of_field? found
  obtain ⟨target, foundTarget, targeted⟩ :=
    underway.validAfter.target_declared member fieldMember keyed
  rwa [Snapshot.field?_of_table? foundTarget]

theorem own_column_isSome : (database.column? table column).isSome := by
  obtain ⟨next, executed⟩ := Option.isSome_iff_exists.mp underway.fits
  obtain ⟨state, -, held, -⟩ := Database.alter_of_onColumn ⟨rfl, rfl⟩ executed
  rw [held]
  rfl

omit underway in
theorem createTable_due (columns : List Column) (other : String) :
    (Statement.createTable other columns).DueBefore before after
      (.addForeignKey table column key) := by
  unfold Statement.DueBefore
  simp only [Statement.moment]
  split_ifs <;> simp

theorem target_table_isSome : (database key.table).isSome := by
  obtain ⟨target, found⟩ := Option.isSome_iff_exists.mp underway.target_isSome
  have stays := Snapshot.table?_isSome_of_field? found
  rw [underway.table_isSome_iff stays]
  cases old : before.table? key.table with
  | some _ => simp
  | none =>
    obtain ⟨columns, member⟩ := createTable_mem underway.complete underway.validAfter old stays
    exact Or.inr ⟨columns, (underway.due _).mpr ⟨member, createTable_due columns _⟩⟩

/-- A new column is added before the foreign key exactly if it does not come later. -/
theorem addColumn_due_iff {added : Column} (common : (before.table? key.table).isSome)
    (new : before.field? key.table key.field = none) (named : added.name = key.field) :
    (Statement.addColumn key.table added).DueBefore before after
        (.addForeignKey table column key) ↔
      ¬ before.TargetComesLater after table column key := by
  have declared : (after.table? key.table).isSome := by
    obtain ⟨target, found⟩ := Option.isSome_iff_exists.mp underway.target_isSome
    exact Snapshot.table?_isSome_of_field? found
  unfold Statement.DueBefore Snapshot.TargetComesLater
  simp only [Statement.moment, named]
  cases own : before.table? table with
  | none => simp [common, new]
  | some _ =>
    by_cases same : key.table = table
    · subst same
      cases field : before.field? key.table column with
      | none => simp [common, new]; omega
      | some _ => simp [common, new]
    · have apart : after.tablePosition key.table ≠ after.tablePosition table := by
        rwa [ne_eq, Snapshot.tablePosition_inj declared]
      cases field : before.field? table column with
      | none => simp [common, new, apart, Ne.symm same]; omega
      | some _ => simp [common, new, apart, Ne.symm same]; omega

theorem target_column_isSome_iff :
    (database.column? key.table key.field).isSome ↔
      ¬ before.TargetComesLater after table column key := by
  rw [underway.column?_isSome_iff underway.target_isSome]
  constructor
  · rintro (held | ⟨t, member, adds⟩)
    · intro later
      simp [later.2.1] at held
    · have occasion := underway.occasion_of_mem member
      cases t with
      | createTable other columns =>
        obtain ⟨rfl, -⟩ := adds
        exact fun later => absurd later.1 (by simp [occasion.1])
      | addColumn other added =>
        obtain ⟨rfl, named⟩ := adds
        obtain ⟨common, new, -⟩ := occasion
        exact (underway.addColumn_due_iff common (named ▸ new) named).mp
          ((underway.due _).mp member).2
      | renameColumn => exact occasion.elim
      | _ => exact adds.elim
  · intro timely
    obtain ⟨target, found⟩ := Option.isSome_iff_exists.mp underway.target_isSome
    have stays := Snapshot.table?_isSome_of_field? found
    cases old : before.table? key.table with
    | none =>
      obtain ⟨columns, member⟩ := createTable_mem underway.complete underway.validAfter old stays
      obtain ⟨-, declared, foundTable, names⟩ := occasion_carryOut underway.validBefore
        underway.validAfter underway.target underway.inPlace _ member
      refine Or.inr ⟨_, (underway.due _).mpr ⟨member, createTable_due columns _⟩, rfl, ?_⟩
      rw [names, ← Table.field?_isSome_iff, ← Snapshot.field?_of_table? foundTable, found]
      rfl
    | some previous =>
      cases held : before.field? key.table key.field with
      | some _ => exact Or.inl rfl
      | none =>
        have common : (before.table? key.table).isSome := by simp [old]
        obtain ⟨added, named, member⟩ := addColumn_mem underway.complete underway.validBefore
          underway.validAfter underway.target common held underway.target_isSome
        refine Or.inr ⟨_, (underway.due _).mpr ⟨member, ?_⟩, rfl, named⟩
        exact (underway.addColumn_due_iff common held named).mpr timely

end Planner.Underway

/-- When a migration reaches the addition of a foreign key, the column of the key is there and so
is the table that it refers to; the column that it refers to is there unless it comes later. -/
theorem migrate_adds_foreign_key_to_present_column {synthesizer : Synthesizer}
    {before after : Snapshot} {migration : Migration} {table column : String} {key : ForeignKey}
    {earlier later : List Statement} (acceptedBefore : before.validate = .ok ())
    (acceptedAfter : after.validate = .ok ())
    (made : synthesizer.migrate before after .postgres = .ok migration)
    (reached : migration.statements = earlier ++ .addForeignKey table column key :: later) :
    ∃ database, (Database.ofSnapshot .postgres before).run earlier = some database ∧
      (database.column? table column).isSome ∧ (database key.table).isSome ∧
      ((database.column? key.table key.field).isSome ↔
        ¬ before.TargetComesLater after table column key) := by
  obtain ⟨database, underway⟩ :=
    Synthesizer.underway acceptedBefore acceptedAfter rfl made reached
  exact ⟨database, underway.ran, underway.own_column_isSome, underway.target_table_isSome,
    underway.target_column_isSome_iff⟩

/-- Users without a key. -/
def namedUsers : Snapshot where
  tables := [{ name := "users", fields := [{ name := "name", type := .text }] }]

/-- Users with a key, and notes that refer to it. -/
def keyedUsers : Snapshot where
  tables := [
    { name := "users"
      fields := [
        { name := "name", type := .text },
        { name := "id", type := .uuid, nullable := false, primaryKey := true }] },
    { name := "notes"
      fields := [
        { name := "id", type := .uuid, nullable := false, primaryKey := true },
        { name := "owner"
          type := .uuid
          foreignKey := some { table := "users", field := "id" } }] }]

/-- Where both tables are new, the notes refer to a key that is there. -/
theorem migrate_adds_foreign_key_to_present_column_users :
    ∃ migration : Migration,
      ({} : Synthesizer).migrate {} keyedUsers .postgres = .ok migration ∧
      ∃ earlier later,
        migration.statements =
          earlier ++ .addForeignKey "notes" "owner" { table := "users", field := "id" } :: later ∧
        ∃ database, (Database.ofSnapshot .postgres {}).run earlier = some database ∧
          (database.column? "users" "id").isSome := by
  obtain ⟨migration, made, earlier, later, reached⟩ : ∃ migration : Migration,
      ({} : Synthesizer).migrate {} keyedUsers .postgres = .ok migration ∧ ∃ earlier later,
        migration.statements = earlier ++
          .addForeignKey "notes" "owner" { table := "users", field := "id" } :: later :=
    ⟨_, rfl, [_, _], _, rfl⟩
  obtain ⟨database, ran, -, -, present⟩ :=
    migrate_adds_foreign_key_to_present_column (by decide) (by decide) made reached
  exact ⟨migration, made, earlier, later, reached, database, ran, present.mpr (by decide)⟩

example : namedUsers.TargetComesLater keyedUsers "notes" "owner"
    { table := "users", field := "id" } := by
  decide

/-- The key that the notes refer to is added to the users after the reference to it. -/
theorem migrate_adds_foreign_key_to_absent_column :
    ∃ migration : Migration,
      ({} : Synthesizer).migrate namedUsers keyedUsers .postgres = .ok migration ∧
      ∃ earlier later,
        migration.statements =
          earlier ++ .addForeignKey "notes" "owner" { table := "users", field := "id" } :: later ∧
        ∃ database, (Database.ofSnapshot .postgres namedUsers).run earlier = some database ∧
          database.column? "users" "id" = none := by
  refine ⟨_, rfl, [_], _, rfl, _, rfl, rfl⟩

end SchemaDelta
