import SchemaDelta.Proofs.Schedule.Underway

/-!
# When foreign keys are dropped

A foreign key that the new snapshot does not have any more is dropped together with its table, or
when its column is worked on. That is before its own column is dropped. It may be after the type of
its column is changed, and after something is done to the column or the table that it refers to.
-/

namespace SchemaDelta

/-- The statement drops or retypes a column at either end of the foreign key, or it drops the table
that the key refers to and not what depends on it. -/
def Statement.Disturbs (table column : String) (key : ForeignKey) : Statement → Prop
  | dropColumn table' column' =>
    (table', column') = (table, column) ∨ (table', column') = (key.table, key.field)
  | alterColumnType table' column' _ =>
    (table', column') = (table, column) ∨ (table', column') = (key.table, key.field)
  | dropTable table' cascade => table' = key.table ∧ cascade = false
  | _ => False

/-- An obsolete foreign key is released only after the statement. -/
def Snapshot.ReleasedAfter (before after : Snapshot) (cascade : Bool) (table column : String)
    (key : ForeignKey) : Statement → Prop
  | .dropTable _ _ =>
    (after.table? table).isSome ∨
      before.tablePosition key.table ≤ before.tablePosition table
  | .dropColumn table' column' =>
    (table', column') ≠ (table, column) ∧ (after.table? table).isSome ∧
      (after.tablePosition key.table < after.tablePosition table ∨
        table = key.table ∧ ((after.field? table column).isSome ∨
          before.fieldPosition table key.field < before.fieldPosition table column))
  | .alterColumnType table' column' _ =>
    if (table', column') = (table, column) then (after.table? key.table).isSome ∨ cascade = false
    else (after.table? table).isSome ∧
      (after.tablePosition key.table < after.tablePosition table ∨
        table = key.table ∧ (after.field? table column).isSome ∧
          after.fieldPosition table key.field < after.fieldPosition table column)
  | _ => False

instance (before after : Snapshot) (cascade : Bool) (table column : String) (key : ForeignKey) :
    (s : Statement) → Decidable (before.ReleasedAfter after cascade table column key s) := by
  intro s
  cases s <;> unfold Snapshot.ReleasedAfter <;> infer_instance

namespace Planner.Underway

variable {planner : Planner} {before after : Snapshot} {s : Statement} {table column : String}
  {key : ForeignKey} {earlier : List Statement} {database : Database}
  (underway : planner.Underway before after s earlier database)
  (held : before.foreignKey? table column = some key)
  (obsolete : after.foreignKey? table column ≠ some key) {cascade : Bool}
  (asked : planner.dialect.dropsCascade planner.config.dropCascade = cascade)

include underway held obsolete asked

/-- A foreign key is released with its table, with the table that it refers to, or on its own. -/
theorem released_iff :
    (∃ t ∈ earlier, t.Releases table column key) ↔
      (after.table? table = none ∧
        (Statement.dropTable table cascade).DueBefore before after s) ∨
      (after.table? key.table = none ∧ cascade = true ∧
        (Statement.dropTable key.table cascade).DueBefore before after s) ∨
      ((after.table? table).isSome ∧
        (Statement.dropForeignKey table column).DueBefore before after s) := by
  constructor
  · rintro ⟨t, member, releases⟩
    have occasion := underway.occasion_of_mem member
    obtain ⟨-, due⟩ := (underway.due t).mp member
    cases t with
    | dropTable table' cascade' =>
      obtain ⟨-, gone, rfl⟩ := occasion
      rw [asked] at releases due
      rcases releases with rfl | ⟨flag, rfl⟩
      · exact Or.inl ⟨gone, due⟩
      · exact Or.inr (Or.inl ⟨gone, flag, due⟩)
    | dropForeignKey table' column' =>
      obtain ⟨rfl, rfl⟩ := releases
      exact Or.inr (Or.inr ⟨occasion.1, due⟩)
    | dropColumn table' column' =>
      -- the constraint of a removed column is dropped right before it
      obtain ⟨rfl, rfl⟩ := releases
      obtain ⟨stays, -, gone⟩ := occasion
      refine Or.inr (Or.inr ⟨stays, Moment.before_trans ?_ due⟩)
      simp [Statement.moment, gone]
    | _ => exact releases.elim
  · obtain ⟨old, foundOld, keyed⟩ := Option.bind_eq_some_iff.mp held
    obtain ⟨oldTable, oldMember, named, fieldMember, -⟩ :=
      underway.validBefore.exists_of_field? foundOld
    rintro (⟨gone, due⟩ | ⟨gone, flag, due⟩ | ⟨stays, due⟩)
    · have dropped := dropTable_mem underway.complete underway.validBefore
        (Snapshot.table?_isSome_of_field? foundOld) gone
      rw [asked] at dropped
      exact ⟨_, (underway.due _).mpr ⟨dropped, due⟩, Or.inl rfl⟩
    · obtain ⟨target, foundTarget, -⟩ :=
        underway.validBefore.target_declared oldMember fieldMember keyed
      have declared : (before.table? key.table).isSome := by simp [foundTarget]
      have dropped := dropTable_mem underway.complete underway.validBefore declared gone
      rw [asked] at dropped
      exact ⟨_, (underway.due _).mpr ⟨dropped, due⟩, Or.inr ⟨flag, rfl⟩⟩
    · have dropped := dropForeignKey_mem underway.complete underway.validBefore
        underway.validAfter underway.target underway.inPlace stays held obsolete
      exact ⟨_, (underway.due _).mpr ⟨dropped, due⟩, ⟨rfl, rfl⟩⟩

theorem released_iff_of_dropTable (disturbed : s = .dropTable key.table false) :
    (∃ t ∈ earlier, t.Releases table column key) ↔
      ¬ before.ReleasedAfter after cascade table column key s := by
  subst disturbed
  rw [underway.released_iff held obsolete asked]
  obtain ⟨-, gone, flag⟩ := underway.occasion
  obtain rfl : cascade = false := by rw [← asked, ← flag]
  cases stays : after.table? table with
  | none => simp [Statement.DueBefore, Statement.moment, Snapshot.ReleasedAfter, stays]
  | some _ =>
    cases field : after.field? table column <;>
      simp [Statement.DueBefore, Statement.moment, Snapshot.ReleasedAfter, stays, field]

theorem released_iff_of_dropColumn {table' column' : String}
    (disturbed : s = .dropColumn table' column') (disturbs : s.Disturbs table column key) :
    (∃ t ∈ earlier, t.Releases table column key) ↔
      ¬ before.ReleasedAfter after cascade table column key s := by
  subst disturbed
  rw [underway.released_iff held obsolete asked]
  obtain ⟨common, declared, gone⟩ := underway.occasion
  obtain ⟨owner, found⟩ := Option.isSome_iff_exists.mp common
  by_cases own : (table', column') = (table, column)
  · cases own
    simp [Statement.DueBefore, Statement.moment, Snapshot.ReleasedAfter, gone, common]
  cases disturbs.resolve_left own
  cases stays : after.table? table with
  | none => simp [Statement.DueBefore, Statement.moment, Snapshot.ReleasedAfter, stays]
  | some _ =>
    by_cases same : table = key.table
    · subst same
      have apart : before.fieldPosition key.table key.field ≠
          before.fieldPosition key.table column := by
        rw [ne_eq, Snapshot.fieldPosition_inj declared]
        exact fun same => own (by rw [same])
      cases field : after.field? key.table column <;>
        simp [Statement.DueBefore, Statement.moment, Snapshot.ReleasedAfter, field, own, found]
      omega
    · have apart : after.tablePosition key.table ≠ after.tablePosition table := by
        rw [ne_eq, Snapshot.tablePosition_inj common]
        exact fun same' => same same'.symm
      cases field : after.field? table column <;>
        simp [Statement.DueBefore, Statement.moment, Snapshot.ReleasedAfter, stays, field, own,
          found, same]
      all_goals omega

theorem released_iff_of_alterColumnType {table' column' : String} {type : NativeType}
    (disturbed : s = .alterColumnType table' column' type)
    (disturbs : s.Disturbs table column key) :
    (∃ t ∈ earlier, t.Releases table column key) ↔
      ¬ before.ReleasedAfter after cascade table column key s := by
  subst disturbed
  rw [underway.released_iff held obsolete asked]
  obtain ⟨previous, altered, -, foundField, -⟩ := underway.occasion
  have common := Snapshot.table?_isSome_of_field? foundField
  obtain ⟨owner, found⟩ := Option.isSome_iff_exists.mp common
  by_cases own : (table', column') = (table, column)
  · cases own
    simp [Statement.DueBefore, Statement.moment, Snapshot.ReleasedAfter, foundField, found]
  cases disturbs.resolve_left own
  cases stays : after.table? table with
  | none => simp [Statement.DueBefore, Statement.moment, Snapshot.ReleasedAfter, stays, own]
  | some _ =>
    by_cases same : table = key.table
    · subst same
      have apart : after.fieldPosition key.table key.field ≠
          after.fieldPosition key.table column := by
        rw [ne_eq, Snapshot.fieldPosition_inj (by simp [foundField])]
        exact fun same => own (by rw [same])
      cases field : after.field? key.table column <;>
        simp [Statement.DueBefore, Statement.moment, Snapshot.ReleasedAfter, field, own, found]
      omega
    · have apart : after.tablePosition key.table ≠ after.tablePosition table := by
        rw [ne_eq, Snapshot.tablePosition_inj common]
        exact fun same' => same same'.symm
      cases field : after.field? table column <;>
        simp [Statement.DueBefore, Statement.moment, Snapshot.ReleasedAfter, stays, field, own,
          found, same]
      all_goals omega

theorem foreignKey?_iff_releasedAfter (disturbs : s.Disturbs table column key) :
    database.foreignKey? table column = some key ↔
      before.ReleasedAfter after cascade table column key s := by
  have released : (∃ t ∈ earlier, t.Releases table column key) ↔
      ¬ before.ReleasedAfter after cascade table column key s := by
    cases s with
    | dropTable table' cascade' =>
      obtain ⟨rfl, rfl⟩ := disturbs
      exact underway.released_iff_of_dropTable held obsolete asked rfl
    | dropColumn table' column' =>
      exact underway.released_iff_of_dropColumn held obsolete asked rfl disturbs
    | alterColumnType table' column' type =>
      exact underway.released_iff_of_alterColumnType held obsolete asked rfl disturbs
    | _ => exact disturbs.elim
  rw [underway.foreignKey?_iff held obsolete, ← not_iff_not, ← released]
  push Not
  rfl

end Planner.Underway

/-- When a migration reaches a statement that disturbs an obsolete foreign key, the foreign key is
not in force any more unless it is released only after the statement. -/
theorem migrate_releases_foreign_key_before_disturbing {synthesizer : Synthesizer}
    {before after : Snapshot} {migration : Migration} {table column : String} {key : ForeignKey}
    {s : Statement} {earlier later : List Statement} (acceptedBefore : before.validate = .ok ())
    (acceptedAfter : after.validate = .ok ())
    (made : synthesizer.migrate before after .postgres = .ok migration)
    (reached : migration.statements = earlier ++ s :: later)
    (held : before.foreignKey? table column = some key)
    (obsolete : after.foreignKey? table column ≠ some key)
    (disturbs : s.Disturbs table column key) :
    ∃ database, (Database.ofSnapshot .postgres before).run earlier = some database ∧
      (database.foreignKey? table column = some key ↔
        before.ReleasedAfter after synthesizer.config.dropCascade table column key s) := by
  obtain ⟨database, underway⟩ :=
    Synthesizer.underway acceptedBefore acceptedAfter rfl made reached
  refine ⟨database, underway.ran, ?_⟩
  exact underway.foreignKey?_iff_releasedAfter held obsolete (Bool.and_true _) disturbs

/-- Notes that refer to the users who signed them. -/
def signedNotes : Snapshot where
  tables := [
    { name := "notes"
      fields := [
        { name := "signer"
          type := .uuid
          foreignKey := some { table := "users", field := "id" } }] },
    { name := "users"
      fields := [
        { name := "id", type := .uuid, nullable := false, primaryKey := true },
        { name := "name", type := .text }] }]

/-- Notes that refer to nobody, and users without the field that they referred to. -/
def unsignedNotes : Snapshot where
  tables := [
    { name := "notes", fields := [{ name := "signer", type := .uuid }] },
    { name := "users", fields := [{ name := "name", type := .text }] }]

/-- Notes with the signature as a text. -/
def initialedNotes : Snapshot where
  tables := [
    { name := "notes", fields := [{ name := "signer", type := .text }] },
    { name := "users"
      fields := [
        { name := "id", type := .uuid, nullable := false, primaryKey := true },
        { name := "name", type := .text }] }]

/-- The reference to the users is dropped before the field that it refers to. -/
theorem migrate_releases_foreign_key_before_disturbing_users :
    ∃ migration : Migration,
      ({} : Synthesizer).migrate signedNotes unsignedNotes .postgres = .ok migration ∧
      ∃ earlier later, migration.statements = earlier ++ .dropColumn "users" "id" :: later ∧
        ∃ database, (Database.ofSnapshot .postgres signedNotes).run earlier = some database ∧
          database.foreignKey? "notes" "signer" ≠ some { table := "users", field := "id" } := by
  obtain ⟨migration, made, earlier, later, reached⟩ : ∃ migration : Migration,
      ({} : Synthesizer).migrate signedNotes unsignedNotes .postgres = .ok migration ∧
      ∃ earlier later, migration.statements = earlier ++ .dropColumn "users" "id" :: later :=
    ⟨_, rfl, [_], _, rfl⟩
  obtain ⟨database, ran, inForce⟩ :=
    migrate_releases_foreign_key_before_disturbing (by decide) (by decide) made reached
      (by decide : signedNotes.foreignKey? "notes" "signer" = some ⟨"users", "id", none, none⟩)
      (by decide) (Or.inr rfl)
  refine ⟨migration, made, earlier, later, reached, database, ran, ?_⟩
  rw [ne_eq, inForce]
  decide

/-- The type of the reference is changed while it is in force. -/
theorem migrate_disturbs_foreign_key_in_force :
    ∃ migration : Migration,
      ({} : Synthesizer).migrate signedNotes initialedNotes .postgres = .ok migration ∧
      ∃ earlier later,
        migration.statements = earlier ++ .alterColumnType "notes" "signer" .text :: later ∧
        ∃ database, (Database.ofSnapshot .postgres signedNotes).run earlier = some database ∧
          database.foreignKey? "notes" "signer" = some { table := "users", field := "id" } :=
  ⟨_, rfl, [], _, rfl, _, rfl, rfl⟩

end SchemaDelta
