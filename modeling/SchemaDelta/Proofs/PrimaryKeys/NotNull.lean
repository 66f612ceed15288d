import SchemaDelta.Proofs.Losses
import SchemaDelta.Proofs.Schedule.Underway

/-!
# Not null and primary keys

What a column declares about keys and nulls changes when the column comes or goes, or when its
nullability is altered, and by nothing else. So a column that both snapshots have is the key that it
was until its nullability is altered. That happens when the flags of nullability differ, and the key
flags have no part in it: also a column that is a primary key, in one snapshot or in both, loses its
`NOT NULL` if only the new field admits nulls.
-/

namespace SchemaDelta

/-- The statement may change what a column of this name declares about keys and nulls. -/
def Statement.Redeclares (table name : String) (s : Statement) : Prop :=
  s.AddsColumn table name ∨ s.RemovesColumn table name ∨
    ∃ nullable, s = .alterNullable table name nullable

/-- A column in its place keeps its declaration about keys and nulls unless its nullability is
altered. -/
theorem ColumnState.alter_keyClause {state final : ColumnState} {s : Statement}
    (altered : state.alter s = some final)
    (other : ∀ table column nullable, s ≠ .alterNullable table column nullable) :
    final.keyClause = state.keyClause := by
  cases s with
  | alterColumnType table column type =>
    cases altered
    rfl
  | alterNullable table column nullable => exact absurd rfl (other table column nullable)
  | setDefault table column default =>
    cases altered
    rfl
  | dropDefault table column =>
    cases altered
    rfl
  | addForeignKey table column key =>
    simp only [alter, Option.ite_none_right_eq_some, Option.some.injEq] at altered
    obtain ⟨-, rfl⟩ := altered
    rfl
  | dropForeignKey table column =>
    cases altered
    rfl
  | _ => cases altered

namespace Columns

variable {columns next : Columns} {s : Statement} {table name : String}

/-- What a statement on a table leaves of the declarations about keys and nulls. -/
theorem alter_keyClause (on : s.alteredTable? = some table)
    (altered : columns.alter s = some next) (spared : ¬ s.Redeclares table name) :
    (next name).map ColumnState.keyClause = (columns name).map ColumnState.keyClause := by
  simp only [Statement.Redeclares, not_or, not_exists] at spared
  obtain ⟨notAdded, notRemoved, notAltered⟩ := spared
  cases alters_of_alter altered with
  | added table' column free =>
    obtain rfl : table' = table := Option.some.inj on
    rw [Function.update_of_ne fun same => notAdded ⟨rfl, same.symm⟩]
  | dropped table' column state found =>
    obtain rfl : table' = table := Option.some.inj on
    rw [Function.update_of_ne fun same => notRemoved ⟨rfl, same.symm⟩]
  | renamed table' column newName state found free =>
    obtain rfl : table' = table := Option.some.inj on
    rw [Function.update_of_ne fun same => notAdded ⟨rfl, same.symm⟩,
      Function.update_of_ne fun same => notRemoved ⟨rfl, same.symm⟩]
  | copied | rowsSecured | policyDropped | policyCreated => rfl
  | redeclared column state final inPlace found made =>
    by_cases same : name = column
    · subst same
      rw [Function.update_self, found, Option.map_some, Option.map_some]
      refine congrArg some (ColumnState.alter_keyClause made ?_)
      rintro table' column' nullable rfl
      obtain rfl : table' = table := Option.some.inj on
      obtain rfl : column' = name := Option.some.inj inPlace
      exact notAltered nullable rfl
    · rw [Function.update_of_ne same]

end Columns

namespace Database

variable {database next : Database} {s : Statement} {table name : String}

/-- What the column of a name in the table of a name declares about keys and nulls. -/
def keyClause? (database : Database) (table name : String) : Option KeyClause :=
  (database.column? table name).map ColumnState.keyClause

theorem keyClause?_ofSnapshot (dialect : Dialect) (snapshot : Snapshot) (table name : String) :
    (ofSnapshot dialect snapshot).keyClause? table name =
      (snapshot.field? table name).map Field.keyClause := by
  rw [keyClause?, column?_ofSnapshot, Option.map_map]
  refine congrFun (congrArg Option.map (funext fun field => ?_)) _
  exact ColumnState.keyClause_ofField dialect field

/-- A statement that does not redeclare a column leaves its declaration about keys and nulls. -/
theorem execute_keyClause? (executed : database.execute s = some next)
    (spared : ¬ s.Redeclares table name) :
    next.keyClause? table name = database.keyClause? table name := by
  cases executes_of_execute executed with
  | created table' columns free distinct =>
    by_cases same : table = table'
    · subst same
      have absent : Columns.ofList columns name = none := by
        rw [Columns.ofList, Option.map_eq_none_iff, ← Option.not_isSome_iff_eq_none,
          find?_name_isSome_iff]
        exact fun member => spared (.inl ⟨rfl, member⟩)
      simp [keyClause?, column?, free, absent]
    · simp [keyClause?, column?, same]
  | dropped table' cascade columns found =>
    have other : table ≠ table' := fun same => spared (.inr (.inl same.symm))
    rw [keyClause?, column?_without (by simp [other]), Option.map_map]
    rfl
  | altered table' columns altered on found made =>
    by_cases same : table = table'
    · subst same
      simp only [keyClause?, column?, Function.update_self, found, Option.bind_some]
      exact Columns.alter_keyClause on made spared
    · simp [keyClause?, column?, same]

end Database

/-- When the nullability of a column is altered, the column is still the key that it was. -/
theorem Planner.Underway.keyClause?_of_alterNullable {planner : Planner} {before after : Snapshot}
    {table column : String} {nullable : Bool} {earlier : List Statement} {database : Database}
    (underway :
      planner.Underway before after (.alterNullable table column nullable) earlier database) :
    database.keyClause? table column = (before.field? table column).map Field.keyClause := by
  obtain ⟨old, field, foundOld, found, -, -⟩ := underway.occasion
  have spared : ∀ t ∈ earlier, ¬ t.Redeclares table column := by
    rintro t member (adds | removes | ⟨nullable', rfl⟩)
    · have occasion := underway.occasion_of_mem member
      cases t with
      | createTable table' columns =>
        obtain ⟨rfl, -⟩ := adds
        obtain ⟨new, -⟩ := occasion
        simp [Snapshot.field?, new] at foundOld
      | addColumn table' added =>
        obtain ⟨rfl, rfl⟩ := adds
        obtain ⟨-, new, -⟩ := occasion
        simp [new] at foundOld
      | renameColumn => exact occasion
      | _ => exact adds
    · have occasion := underway.occasion_of_mem member
      cases t with
      | dropTable table' cascade =>
        obtain rfl : table' = table := removes
        obtain ⟨-, gone, -⟩ := occasion
        simp [Snapshot.field?, gone] at found
      | dropColumn table' column' =>
        obtain ⟨rfl, rfl⟩ := removes
        obtain ⟨-, -, gone⟩ := occasion
        simp [gone] at found
      | renameColumn => exact occasion
      | _ => exact removes
    · -- the nullability of a column has one moment, so it is not altered before
      exact Moment.before_irrefl _ ((underway.due _).mp member).2
  have kept := foldlM_iff
    (fun database => database.keyClause? table column =
      (before.field? table column).map Field.keyClause) (fun _ => False)
    (fun t member state next executed => by
      rw [Database.execute_keyClause? executed (spared t member)]
      simp) underway.ran
  exact kept.mpr ⟨Database.keyClause?_ofSnapshot planner.dialect before table column,
    fun _ _ => not_false⟩

/-- A migration drops the `NOT NULL` of a column exactly if only the new one of its two fields
admits nulls, whatever the key flags are. When it does, the column is the key that it was. -/
theorem migrate_drops_not_null_whatever_the_key {synthesizer : Synthesizer}
    {before after : Snapshot} {migration : Migration} {table column : String}
    (acceptedBefore : before.validate = .ok ()) (acceptedAfter : after.validate = .ok ())
    (made : synthesizer.migrate before after .postgres = .ok migration) :
    (.alterNullable table column true ∈ migration.statements ↔ ∃ old field,
        before.field? table column = some old ∧ after.field? table column = some field ∧
          old.nullable = false ∧ field.nullable = true) ∧
      ∀ earlier later, migration.statements = earlier ++ .alterNullable table column true :: later →
        ∃ database, (Database.ofSnapshot .postgres before).run earlier = some database ∧
          database.keyClause? table column = (before.field? table column).map Field.keyClause := by
  constructor
  · have validBefore := Snapshot.Valid.ofValidate acceptedBefore
    have validAfter := Snapshot.Valid.ofValidate acceptedAfter
    obtain ⟨complete, rfl⟩ := Plan.toMigration_eq_ok_iff.mp made
    constructor
    · intro member
      obtain ⟨old, field, foundOld, found, differ, nullable⟩ :=
        Planner.occasion_carryOut validBefore validAfter rfl rfl _ member
      refine ⟨old, field, foundOld, found, ?_, nullable.symm⟩
      rw [← nullable] at differ
      simpa using differ
    · rintro ⟨old, field, foundOld, found, notNull, nullable⟩
      have differ : old.nullable ≠ field.nullable := by simp [notNull, nullable]
      have member := Planner.alterNullable_mem complete validBefore validAfter rfl rfl foundOld
        found differ
      rwa [nullable] at member
  · intro earlier later reached
    obtain ⟨database, underway⟩ :=
      Synthesizer.underway acceptedBefore acceptedAfter rfl made reached
    exact ⟨database, underway.ran, underway.keyClause?_of_alterNullable⟩

/-- The key of the notes loses its `NOT NULL` together with its flag in the schema, while it is still
the key of the table; their owner does not. -/
theorem migrate_drops_not_null_whatever_the_key_notes :
    ∃ migration : Migration,
      ({} : Synthesizer).migrate ownedNotes looseNotes .postgres = .ok migration ∧
      .alterNullable "notes" "owner" true ∉ migration.statements ∧
      ∃ earlier later, migration.statements = earlier ++ .alterNullable "notes" "id" true :: later ∧
        ∃ database, (Database.ofSnapshot .postgres ownedNotes).run earlier = some database ∧
          database.keyClause? "notes" "id" = some .primaryKey := by
  obtain ⟨migration, made, earlier, later, reached⟩ : ∃ migration : Migration,
      ({} : Synthesizer).migrate ownedNotes looseNotes .postgres = .ok migration ∧
      ∃ earlier later, migration.statements = earlier ++ .alterNullable "notes" "id" true :: later :=
    ⟨_, rfl, [_, _], _, rfl⟩
  obtain ⟨owner, -⟩ : (Statement.alterNullable "notes" "owner" true ∈ _ ↔ _) ∧ _ :=
    migrate_drops_not_null_whatever_the_key ownedNotes_regular.accepted
      looseNotes_regular.accepted made
  obtain ⟨-, atKey⟩ := migrate_drops_not_null_whatever_the_key ownedNotes_regular.accepted
    looseNotes_regular.accepted made
  refine ⟨migration, made, ?_, earlier, later, reached, atKey earlier later reached⟩
  rw [owner]
  rintro ⟨old, field, foundOld, -, notNull, -⟩
  obtain rfl := Option.some.inj foundOld
  cases notNull

/-- Notes with a key. -/
def keyedNotes : Snapshot where
  tables := [
    { name := "notes"
      fields := [{ name := "id", type := .uuid, nullable := false, primaryKey := true }] }]

/-- Notes with a key of which nothing is said about nulls, so that they are admitted. -/
def carelessNotes : Snapshot where
  tables := [{ name := "notes", fields := [{ name := "id", type := .uuid, primaryKey := true }] }]

/-- A column that is a primary key before and after loses its `NOT NULL`. -/
theorem migrate_drops_not_null_of_key :
    keyedNotes.validate = .ok () ∧ carelessNotes.validate = .ok () ∧
    ∃ migration : Migration,
      ({} : Synthesizer).migrate keyedNotes carelessNotes .postgres = .ok migration ∧
      migration.statements = [.alterNullable "notes" "id" true] ∧ migration.warnings = [] :=
  ⟨by decide, by decide, _, rfl, rfl, rfl⟩

end SchemaDelta
