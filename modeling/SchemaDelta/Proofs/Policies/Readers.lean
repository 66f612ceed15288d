import SchemaDelta.Proofs.Policies.Unrecorded

/-!
# Policies that read a column

The policies of a migration come last, after all columns. So when a column is dropped or its type
changed, a policy that reads it is still in force, unless it went with a lost table. If changes are
recorded for its table, it is dropped only after that, and otherwise not at all.
-/

namespace SchemaDelta

/-- The statement drops or retypes one of the columns that are read. -/
def Statement.DisturbsReader (sources : List Source) : Statement → Prop
  | dropColumn table column => .column ⟨table, column⟩ ∈ sources
  | alterColumnType table column _ => .column ⟨table, column⟩ ∈ sources
  | _ => False

/-- What has become of the policy for an operation on a table of the old snapshot, which `first`
creates with the predicate `p`, when the statements `earlier` of a migration are executed and the
statements `later` are still to come. -/
structure Snapshot.HoldsReader (before after : Snapshot) (config : Config) (mentions : Mentions)
    (table : Table) (operation : Operation) (access : List AccessChange)
    (first earlier later : List Statement) (p : String) : Prop where
  created : ∀ text, .createPolicy table.name operation text ∈ first ↔ text = p
  removed_iff :
    (∃ t ∈ earlier, t.RemovesPolicy table.name operation
        (before.PolicyReads config mentions table operation)) ↔
      config.dropCascade = true ∧
        ∃ lost, before.PolicyReads config mentions table operation lost ∧ before.Loses after lost
  dropped_iff : .dropPolicy table.name operation ∈ later ↔
    ∃ change ∈ access, change.table = table.name
  inForce_iff : ∀ depends : String → Policy → Bool,
    (∀ lost, depends lost ⟨operation, p⟩ = true ↔
      before.PolicyReads config mentions table operation lost) →
    ∃ start database, DatabaseAccess.empty.run depends first = some start ∧
      start.run depends earlier = some database ∧
      (database.policy? table.name operation = some ⟨operation, p⟩ ↔
        ¬ ∃ t ∈ earlier, t.RemovesPolicy table.name operation
          (before.PolicyReads config mentions table operation))

namespace Planner.Underway

variable {planner : Planner} {before after : Snapshot} {s : Statement} {earlier : List Statement}
  {database : Database} (underway : planner.Underway before after s earlier database)
  {sources : List Source} (disturbs : s.DisturbsReader sources)

include underway disturbs

/-- A lost table is dropped before any column is worked on. -/
theorem dropTable_of_disturbsReader {lost : String} (loses : before.Loses after lost) :
    .dropTable lost (planner.dialect.dropsCascade planner.config.dropCascade) ∈ earlier := by
  obtain ⟨there, gone⟩ := loses
  refine (underway.due _).mpr ⟨dropTable_mem underway.complete underway.validBefore there gone, ?_⟩
  cases s with
  | dropColumn | alterColumnType => simp [Statement.DueBefore, Statement.moment]
  | _ => exact disturbs.elim

/-- No policy is dropped or created before the last column was worked on. -/
theorem not_securesRows_of_disturbsReader {t : Statement} (member : t ∈ earlier) :
    t.securesRows = false := by
  obtain ⟨-, due⟩ := (underway.due t).mp member
  cases s with
  | dropColumn | alterColumnType =>
    cases t <;> first | rfl | simp [Statement.DueBefore, Statement.moment] at due
  | _ => exact disturbs.elim

/-- Before a column is worked on, a policy that stays with its table goes with a lost table that it
reads, if at all. -/
theorem removes_iff_of_disturbsReader (postgres : planner.dialect = .postgres) {table : String}
    {operation : Operation} {reads : String → Prop}
    (undropped : ∀ cascade, .dropTable table cascade ∉ earlier) :
    (∃ t ∈ earlier, t.RemovesPolicy table operation reads) ↔
      planner.config.dropCascade = true ∧ ∃ lost, reads lost ∧ before.Loses after lost := by
  have drops : ∀ lost, before.Loses after lost →
      .dropTable lost (planner.dialect.dropsCascade planner.config.dropCascade) ∈ earlier :=
    fun lost loses => underway.dropTable_of_disturbsReader disturbs loses
  refine removes_iff postgres (fun t member => underway.occasion_of_mem member) drops ?stays
    ?notDropped
  case stays => exact fun loses => undropped _ (drops _ loses)
  case notDropped =>
    intro member
    cases underway.not_securesRows_of_disturbsReader disturbs member

/-- After a column was worked on, the policies of the tables with changed rules are dropped. -/
theorem dropPolicy_mem_later_iff (postgres : planner.dialect = .postgres) {table : String}
    {operation : Operation} {later : List Statement}
    (split : (planner.carryOut (.between before after)).statements = earlier ++ s :: later) :
    .dropPolicy table operation ∈ later ↔
      ∃ change ∈ (Diff.between before after).access, change.table = table := by
  rw [← dropPolicy_mem_carryOut (supportsPolicies_iff.mpr postgres) underway.complete, split,
    List.mem_append, List.mem_cons]
  have notDropped : .dropPolicy table operation ∉ earlier := by
    intro member
    cases underway.not_securesRows_of_disturbsReader disturbs member
  have other : Statement.dropPolicy table operation ≠ s := by
    rintro rfl
    exact disturbs
  rw [or_iff_right notDropped, or_iff_right other]

end Planner.Underway

/-- When a migration drops or retypes a column, a policy that reads it on a table that is still
there has not been removed, unless it reads a lost table and went with it. It is dropped after that
exactly if changes are recorded for its table. -/
theorem migrate_disturbs_columns_before_policies {config : Config} {before after : Snapshot}
    {first migration : Migration} {table : Table} {operation : Operation} {s : Statement}
    {earlier later : List Statement} (mentions : Mentions)
    (acceptedBefore : before.validate = .ok ()) (acceptedAfter : after.validate = .ok ())
    (madeFirst : ({ config } : Synthesizer).bootstrap before .postgres = .ok first)
    (made : ({ config } : Synthesizer).migrate before after .postgres = .ok migration)
    (reached : migration.statements = earlier ++ s :: later) (declared : table ∈ before.tables)
    (disturbs : s.DisturbsReader (before.policySources config mentions table operation))
    (undropped : ∀ cascade, .dropTable table.name cascade ∉ earlier) :
    ∃ p, before.HoldsReader after config mentions table operation migration.access
      first.statements earlier later p := by
  have validBefore := Snapshot.Valid.ofValidate acceptedBefore
  have validAfter := Snapshot.Valid.ofValidate acceptedAfter
  obtain ⟨_, underway⟩ := Synthesizer.underway acceptedBefore acceptedAfter rfl made reached
  obtain ⟨completeFirst, rfl⟩ := Plan.toMigration_eq_ok_iff.mp madeFirst
  obtain ⟨complete, rfl⟩ := Plan.toMigration_eq_ok_iff.mp made
  let planner : Planner := { config, dialect := .postgres, target := before }
  let planner' : Planner := { config, dialect := .postgres, target := after }
  have completeFirst : planner.bootstrap.Complete := completeFirst
  have complete : (planner'.carryOut (.between before after)).Complete := complete
  have split : (planner'.carryOut (.between before after)).statements =
      earlier ++ s :: later := reached
  refine ⟨planner.predicateText table.name operation (table.access.get operation), ?_⟩
  constructor
  case created =>
    intro text
    exact Planner.createPolicy_mem_bootstrap_of_table validBefore rfl completeFirst declared
      operation
  case removed_iff => exact underway.removes_iff_of_disturbsReader disturbs rfl undropped
  case dropped_iff => exact underway.dropPolicy_mem_later_iff disturbs rfl split
  case inForce_iff =>
    intro depends agrees
    obtain ⟨start, ranFirst, sound, held⟩ := Planner.policy?_of_bootstrap validBefore rfl
      completeFirst declared operation depends
    obtain ⟨final, ran, -⟩ :=
      Planner.run_carryOut_access depends validBefore validAfter sound rfl complete
    rw [split] at ran
    obtain ⟨database, -, ran, -⟩ := foldlM_reach ran
    refine ⟨start, database, ranFirst, ran, ?_⟩
    have uncreated : ∀ text, .createPolicy table.name operation text ∉ earlier := by
      intro text member
      cases underway.not_securesRows_of_disturbsReader disturbs member
    rw [DatabaseAccess.run_policy?_eq_iff ran uncreated held agrees, and_iff_right rfl]

/-- Notes of users whose names are numbers, without guests. -/
def numberedUserNotes : Snapshot where
  tables := [
    { name := "users"
      fields := [
        { name := "id", type := .uuid, nullable := false, primaryKey := true },
        { name := "name", type := .number }] },
    privateNotes "users"]

/-- The names of the users are retyped under the policy of the notes. -/
theorem migrate_disturbs_columns_before_policies_users :
    ∃ first migration : Migration,
      ({} : Synthesizer).bootstrap userNotes .postgres = .ok first ∧
      ({} : Synthesizer).migrate userNotes numberedUserNotes .postgres = .ok migration ∧
      migration.statements =
        [.dropTable "guests" true] ++ .alterColumnType "users" "name" .numeric :: [] ∧
      ∃ p, .createPolicy "notes" .read p ∈ first.statements ∧
        ¬ ∃ t ∈ [Statement.dropTable "guests" true], t.RemovesPolicy "notes" .read
          (userNotes.PolicyReads {} (fun _ _ => []) (privateNotes "users") .read) := by
  obtain ⟨first, madeFirst⟩ : ∃ first : Migration,
      ({} : Synthesizer).bootstrap userNotes .postgres = .ok first := ⟨_, rfl⟩
  obtain ⟨migration, made, reached⟩ : ∃ migration : Migration,
      ({} : Synthesizer).migrate userNotes numberedUserNotes .postgres = .ok migration ∧
      migration.statements =
        [.dropTable "guests" true] ++ .alterColumnType "users" "name" .numeric :: [] :=
    ⟨_, rfl, rfl⟩
  obtain ⟨p, holds⟩ := migrate_disturbs_columns_before_policies (fun _ _ => [])
    (by decide : userNotes.validate = .ok ()) (by decide : numberedUserNotes.validate = .ok ())
    madeFirst made reached (.tail _ (.tail _ (.head _)))
    (by decide : Source.column ⟨"users", "name"⟩ ∈
      userNotes.policySources {} (fun _ _ => []) (privateNotes "users") .read)
    (by simp [privateNotes])
  have kept : ∀ source ∈ userNotes.policySources {} (fun _ _ => []) (privateNotes "users") .read,
      ¬ userNotes.Loses numberedUserNotes source.owner := by decide
  refine ⟨first, migration, madeFirst, made, reached, p, (holds.created p).mpr rfl, ?_⟩
  intro removed
  obtain ⟨-, lost, ⟨source, reads, rfl⟩, loses⟩ := holds.removed_iff.mp removed
  exact kept source reads loses

/-- Notes that only their owner may read, by a column of their own. -/
def ownNotes : Table where
  name := "notes"
  fields := [
    { name := "id", type := .uuid, nullable := false },
    { name := "owner", type := .uuid }]
  access := { read := .expr (.compare .eq (.field "owner") (.var "auth.uid")) }

/-- The owner of the notes is dropped before the policy that reads it. -/
theorem migrate_drops_column_before_policy :
    Snapshot.validate ⟨[ownNotes]⟩ = .ok () ∧ openNotes.validate = .ok () ∧
    (Statement.dropColumn "notes" "owner").DisturbsReader
      (Snapshot.policySources ⟨[ownNotes]⟩ {} (fun _ _ => []) ownNotes .read) ∧
    ∃ first migration : Migration, ∃ p later,
      ({} : Synthesizer).bootstrap ⟨[ownNotes]⟩ .postgres = .ok first ∧
      ({} : Synthesizer).migrate ⟨[ownNotes]⟩ openNotes .postgres = .ok migration ∧
      .createPolicy "notes" .read p ∈ first.statements ∧
      migration.statements = .dropColumn "notes" "owner" :: later ∧
      .dropPolicy "notes" .read ∈ later := by
  have reads : Source.column ⟨"notes", "owner"⟩ ∈
      Snapshot.policySources ⟨[ownNotes]⟩ {} (fun _ _ => []) ownNotes .read := by decide
  refine ⟨by decide, by decide, reads, _, _, _, _, rfl, rfl,
    List.mem_iff_getElem?.mpr ⟨6, rfl⟩, rfl, ?_⟩
  exact .tail _ (.head _)

end SchemaDelta
