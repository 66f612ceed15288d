import SchemaDelta.Proofs.Progress
import SchemaDelta.Proofs.Schedule.Occasion
import SchemaDelta.Proofs.Schedule.Planner

/-!
# A migration on its way

When a statement of a migration is reached, the statements executed so far are those that are due
before it, and they ran. What is in the database then is what the old snapshot has there, with what
these statements added and without what they removed.
-/

namespace SchemaDelta

/-- A statement of a migration is reached after others were executed. -/
structure Planner.Underway (planner : Planner) (before after : Snapshot) (s : Statement)
    (earlier : List Statement) (database : Database) : Prop where
  validBefore : before.Valid
  validAfter : after.Valid
  target : planner.target = after
  inPlace : planner.dialect.isEmbedded = false
  complete : (planner.carryOut (.between before after)).Complete
  member : s ∈ (planner.carryOut (.between before after)).statements
  due : ∀ t, t ∈ earlier ↔
    t ∈ (planner.carryOut (.between before after)).statements ∧ t.DueBefore before after s
  ran : (Database.ofSnapshot planner.dialect before).run earlier = some database
  fits : (database.execute s).isSome

theorem Planner.underway_of_split {planner : Planner} {before after : Snapshot} {s : Statement}
    {earlier later : List Statement} (validBefore : before.Valid) (validAfter : after.Valid)
    (target : planner.target = after) (inPlace : planner.dialect.isEmbedded = false)
    (complete : (planner.carryOut (.between before after)).Complete)
    (split : (planner.carryOut (.between before after)).statements = earlier ++ s :: later) :
    ∃ database, planner.Underway before after s earlier database := by
  have ordered := (timed_carryOut validBefore validAfter target inPlace).ordered
  have whole := run_carryOut validBefore validAfter target complete
  rw [split, Database.run_append] at whole
  obtain ⟨database, ran, rest⟩ := Option.bind_eq_some_iff.mp whole
  obtain ⟨next, executed, -⟩ := Option.bind_eq_some_iff.mp rest
  refine ⟨database, validBefore, validAfter, target, inPlace, complete, ?member, ?due, ran, ?fits⟩
  case member => simp [split]
  case due =>
    intro t
    rw [split] at ordered ⊢
    exact Statement.mem_earlier_iff ordered
  case fits => simp [executed]

/-- The statements of a migration run up to any of them, in the order of their moments. -/
theorem Synthesizer.underway {synthesizer : Synthesizer} {dialect : Dialect}
    {before after : Snapshot} {migration : Migration} {s : Statement}
    {earlier later : List Statement} (acceptedBefore : before.validate = .ok ())
    (acceptedAfter : after.validate = .ok ()) (inPlace : dialect.isEmbedded = false)
    (made : synthesizer.migrate before after dialect = .ok migration)
    (reached : migration.statements = earlier ++ s :: later) :
    ∃ database, ({ synthesizer with dialect, target := after } : Planner).Underway before after s
      earlier database := by
  obtain ⟨complete, rfl⟩ := Plan.toMigration_eq_ok_iff.mp made
  exact Planner.underway_of_split (.ofValidate acceptedBefore) (.ofValidate acceptedAfter) rfl
    inPlace complete reached

namespace Planner.Underway

variable {planner : Planner} {before after : Snapshot} {s t : Statement} {earlier : List Statement}
  {database : Database} (underway : planner.Underway before after s earlier database)

include underway

theorem occasion : planner.Occasion before after s :=
  occasion_carryOut underway.validBefore underway.validAfter underway.target underway.inPlace s
    underway.member

theorem occasion_of_mem (member : t ∈ earlier) : planner.Occasion before after t :=
  occasion_carryOut underway.validBefore underway.validAfter underway.target underway.inPlace t
    ((underway.due t).mp member).1

/-- A field of the new snapshot has a column as soon as one was there or was added. -/
theorem column?_isSome_iff {table name : String} (stays : (after.field? table name).isSome) :
    (database.column? table name).isSome ↔
      (before.field? table name).isSome ∨ ∃ t ∈ earlier, t.AddsColumn table name := by
  obtain ⟨field, found⟩ := Option.isSome_iff_exists.mp stays
  have kept : ∀ t ∈ earlier, ¬ t.RemovesColumn table name := by
    intro t member removes
    have occasion := underway.occasion_of_mem member
    cases t with
    | dropTable => simp_all [Statement.RemovesColumn, Occasion, Snapshot.field?]
    | dropColumn => simp_all [Statement.RemovesColumn, Occasion]
    | renameColumn => exact occasion
    | _ => exact removes
  have absent := foldlM_iff
    (fun database => ¬ (database.column? table name).isSome) (Statement.AddsColumn table name)
    (fun t member database next executed => by
      rw [Database.execute_isSome_iff executed (kept t member), not_or]) underway.ran
  rw [← not_iff_not, absent, Database.column?_ofSnapshot, Option.isSome_map]
  push Not
  rfl

/-- A table of the new snapshot is there as soon as it was there or was created. -/
theorem table_isSome_iff {table : String} (stays : (after.table? table).isSome) :
    (database table).isSome ↔
      (before.table? table).isSome ∨ ∃ columns, .createTable table columns ∈ earlier := by
  have kept : ∀ t ∈ earlier, ∀ cascade, t ≠ .dropTable table cascade := by
    rintro t member cascade rfl
    obtain ⟨-, gone, -⟩ := underway.occasion_of_mem member
    simp [gone] at stays
  have absent := foldlM_iff (fun database => ¬ (database table).isSome)
    (fun t => ∃ columns, t = .createTable table columns)
    (fun t member database next executed => by
      rw [Database.execute_table_iff executed (kept t member), not_or]) underway.ran
  rw [← not_iff_not, absent, Database.ofSnapshot, Option.isSome_map]
  simp only [not_or, not_exists]
  exact and_congr_right' ⟨fun each columns member => each _ member columns rfl,
    fun each t member columns same => each columns (same ▸ member)⟩

/-- An obsolete foreign key is in force until it is released. -/
theorem foreignKey?_iff {table name : String} {key : ForeignKey}
    (held : before.foreignKey? table name = some key)
    (obsolete : after.foreignKey? table name ≠ some key) :
    database.foreignKey? table name = some key ↔
      ∀ t ∈ earlier, ¬ t.Releases table name key := by
  obtain ⟨old, foundOld, -⟩ := Option.bind_eq_some_iff.mp held
  obtain ⟨oldTable, foundTable, -⟩ := Option.bind_eq_some_iff.mp foundOld
  have undeclared : ∀ t ∈ earlier, ¬ t.Declares table name key := by
    intro t member declares
    have occasion := underway.occasion_of_mem member
    cases t with
    | createTable => simp_all [Statement.Declares, Occasion]
    | addColumn => simp_all [Statement.Declares, Occasion, Snapshot.field?]
    | addForeignKey => simp_all [Statement.Declares, Occasion]
    | renameColumn => exact occasion
    | _ => exact declares
  rw [foldlM_iff _ _ (fun t member _ _ executed =>
      Database.execute_foreignKey_iff executed (undeclared t member)) underway.ran,
    Database.foreignKey?_ofSnapshot, held]
  simp

end Planner.Underway

end SchemaDelta
