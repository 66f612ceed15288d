import SchemaDelta.Proofs.Expressions.Texts
import SchemaDelta.Proofs.Patch
import SchemaDelta.Proofs.Policies.Persistence

/-!
# Policies of tables without recorded changes

A migration creates no policies for a table of both snapshots whose rules it does not record. So
these policies stay as they are: with the predicates of the old snapshot, and without those that go
with a lost table. They are the ones that the new snapshot calls for if the conditions are
identical, if the foreign keys that they follow lead to the same fields, and if no lost table is
read.
-/

namespace SchemaDelta

namespace Planner

/-- The predicates for two conditions that are equal for a diff. -/
theorem renders_eq_iff {config : Config} {dialect : Dialect} {before after : Snapshot}
    (validBefore : before.Valid) (validAfter : after.Valid) {table p q : String}
    {condition condition' : Condition} (same : Condition.beq condition condition' = true)
    (first : ({ config, dialect, target := before } : Planner).RendersCondition table condition p)
    (second :
      ({ config, dialect, target := after } : Planner).RendersCondition table condition' q) :
    p = q ↔ condition = condition' ∧ before.SameWays after table condition.paths := by
  cases first with
  | always allowed =>
    cases second with
    | always allowed' =>
      obtain rfl : allowed = allowed' := by simpa [Condition.beq] using same
      simp [Condition.paths, Snapshot.SameWays]
    | expr => cases same
  | @expr d p compiled =>
    cases second with
    | always => cases same
    | @expr e q compiled' =>
      have matching := Expr.matches_compileSql validBefore validAfter same compiled compiled'
      rw [matching.eq_iff, Condition.expr.injEq]
      rfl

section Bootstrapped

variable {planner : Planner} (valid : planner.target.Valid)
  (supported : planner.dialect.supportsPolicies = true) (complete : planner.bootstrap.Complete)
  {table : Table} (member : table ∈ planner.target.tables) (operation : Operation)

include valid supported complete member

theorem createPolicy_mem_bootstrap_of_table {text : String} :
    .createPolicy table.name operation text ∈ planner.bootstrap.statements ↔
      text = planner.predicateText table.name operation (table.access.get operation) := by
  rw [createPolicy_mem_bootstrap supported complete]
  constructor
  · rintro ⟨declared, declaredMember, named, rfl⟩
    have same := List.inj_on_of_nodup_map valid.tablesDistinct declaredMember member named
    rw [same]
  · rintro rfl
    exact ⟨table, member, rfl, rfl⟩

/-- Every operation has its policy after bootstrapping. -/
theorem policy?_of_bootstrap (depends : String → Policy → Bool) :
    ∃ final, DatabaseAccess.empty.run depends planner.bootstrap.statements = some final ∧
      final.Sound (· ∈ planner.target.tableNames) ∧
      final.policy? table.name operation = some
        ⟨operation, planner.predicateText table.name operation (table.access.get operation)⟩ := by
  obtain ⟨final, ran, recorded, sound⟩ :=
    run_bootstrap_access depends valid supported complete
  refine ⟨final, ran, sound, ?_⟩
  rw [DatabaseAccess.policy?, recorded table member, Option.bind_some]
  exact recordedPolicies_ofNewTable planner table operation

end Bootstrapped

section CarriedOut

variable {planner : Planner} {before after : Snapshot} (validBefore : before.Valid)
  (validAfter : after.Valid) (postgres : planner.dialect = .postgres)
  (complete : (planner.carryOut (.between before after)).Complete) {table : Table}
  (declared : table ∈ after.tables)
  (unrecorded : ∀ change ∈ (Diff.between before after).access, change.table ≠ table.name)
  {operation : Operation}

include validBefore validAfter postgres complete declared unrecorded

/-- The policies of a table without recorded changes go with the lost tables, if at all. -/
theorem removes_unrecorded_iff (target : planner.target = after) {reads : String → Prop} :
    (∃ s ∈ (planner.carryOut (.between before after)).statements,
        s.RemovesPolicy table.name operation reads) ↔
      planner.config.dropCascade = true ∧ ∃ lost, reads lost ∧ before.Loses after lost := by
  have inPlace : planner.dialect.isEmbedded = false := by rw [postgres]; rfl
  refine removes_iff postgres (occasion_carryOut validBefore validAfter target inPlace) ?drops
    ?stays ?notDropped
  case drops =>
    rintro lost ⟨there, gone⟩
    exact dropTable_mem complete validBefore there gone
  case stays =>
    rintro ⟨-, gone⟩
    rw [validAfter.table?_eq_some_iff.mpr ⟨declared, rfl⟩] at gone
    cases gone
  case notDropped =>
    rw [dropPolicy_mem_carryOut (supportsPolicies_iff.mpr postgres) complete]
    rintro ⟨change, member, named⟩
    exact unrecorded change member named

omit validBefore validAfter declared in
theorem uncreated_of_unrecorded (text : String) :
    .createPolicy table.name operation text ∉
      (planner.carryOut (.between before after)).statements := by
  rw [createPolicy_mem_carryOut (supportsPolicies_iff.mpr postgres) complete]
  rintro ⟨change, member, named, -⟩
  exact unrecorded change member named

end CarriedOut

end Planner

/-- The conditions of a table whose rules are not recorded are equal for the diff. -/
theorem Diff.equivalent_of_unrecorded {before after : Snapshot} (validBefore : before.Valid)
    (validAfter : after.Valid) {old table : Table} (declaredBefore : old ∈ before.tables)
    (declared : table ∈ after.tables) (named : old.name = table.name)
    (unrecorded : ∀ change ∈ (between before after).access, change.table ≠ table.name) :
    old.access.Equivalent table.access := by
  have none : (between before after).accessOf? table.name = none := by
    rw [accessOf?, List.find?_eq_none]
    intro change member
    simpa using unrecorded change member
  rw [accessOf?_between validBefore validAfter declaredBefore declared named] at none
  exact AccessChange.equivalent_of_between? table.name old.access table.access none

/-- What becomes of the policy for an operation on a table of both snapshots, where `first` creates
the old snapshot, `second` the new one, and `migration` leads from one to the other: it has the
predicate `p`, and the new snapshot calls for `q`. -/
structure Snapshot.LeavesPolicy (before after : Snapshot) (config : Config) (mentions : Mentions)
    (old table : Table) (operation : Operation) (first migration second : List Statement)
    (p q : String) : Prop where
  created : ∀ text, .createPolicy table.name operation text ∈ first ↔ text = p
  wanted : ∀ text, .createPolicy table.name operation text ∈ second ↔ text = q
  same_iff : p = q ↔ old.access.get operation = table.access.get operation ∧
    before.SameWays after table.name (old.access.get operation).paths
  removed_iff :
    (∃ s ∈ migration, s.RemovesPolicy table.name operation
        (before.PolicyReads config mentions old operation)) ↔
      config.dropCascade = true ∧
        ∃ lost, before.PolicyReads config mentions old operation lost ∧ before.Loses after lost
  left_iff : ∀ depends : String → Policy → Bool,
    (∀ lost, depends lost ⟨operation, p⟩ = true ↔
      before.PolicyReads config mentions old operation lost) →
    ∃ start final all, DatabaseAccess.empty.run depends first = some start ∧
      start.run depends migration = some final ∧
      DatabaseAccess.empty.run depends second = some all ∧
      (final.policy? table.name operation = all.policy? table.name operation ↔
        p = q ∧ ¬ ∃ s ∈ migration, s.RemovesPolicy table.name operation
          (before.PolicyReads config mentions old operation))

/-- The policies of a table of both snapshots whose rules a migration does not record stay as they
are. They are those that the new snapshot calls for exactly if their conditions are identical and
follow foreign keys that lead to the same fields; and they stay unless they go with a lost table
that they read. -/
theorem migrate_leaves_unrecorded_policies {config : Config} {before after : Snapshot}
    {first migration second : Migration} {old table : Table} (mentions : Mentions)
    (operation : Operation) (acceptedBefore : before.validate = .ok ())
    (acceptedAfter : after.validate = .ok ())
    (madeFirst : ({ config } : Synthesizer).bootstrap before .postgres = .ok first)
    (made : ({ config } : Synthesizer).migrate before after .postgres = .ok migration)
    (madeSecond : ({ config } : Synthesizer).bootstrap after .postgres = .ok second)
    (foundOld : before.table? table.name = some old) (declared : table ∈ after.tables)
    (unrecorded : ∀ change ∈ migration.access, change.table ≠ table.name) :
    ∃ p q, before.LeavesPolicy after config mentions old table operation first.statements
      migration.statements second.statements p q := by
  have validBefore := Snapshot.Valid.ofValidate acceptedBefore
  have validAfter := Snapshot.Valid.ofValidate acceptedAfter
  obtain ⟨completeFirst, rfl⟩ := Plan.toMigration_eq_ok_iff.mp madeFirst
  obtain ⟨complete, rfl⟩ := Plan.toMigration_eq_ok_iff.mp made
  obtain ⟨completeSecond, rfl⟩ := Plan.toMigration_eq_ok_iff.mp madeSecond
  obtain ⟨declaredBefore, named⟩ := validBefore.table?_eq_some_iff.mp foundOld
  have equivalent :=
    Diff.equivalent_of_unrecorded validBefore validAfter declaredBefore declared named unrecorded
  let planner : Planner := { config, dialect := .postgres, target := before }
  let planner' : Planner := { config, dialect := .postgres, target := after }
  have completeFirst : planner.bootstrap.Complete := completeFirst
  have completeSecond : planner'.bootstrap.Complete := completeSecond
  have complete : (planner'.carryOut (.between before after)).Complete := complete
  refine ⟨planner.predicateText old.name operation (old.access.get operation),
    planner'.predicateText table.name operation (table.access.get operation), ?_⟩
  constructor
  case created =>
    intro text
    rw [← named]
    exact Planner.createPolicy_mem_bootstrap_of_table validBefore rfl completeFirst declaredBefore
      operation
  case wanted =>
    intro text
    exact Planner.createPolicy_mem_bootstrap_of_table validAfter rfl completeSecond declared
      operation
  case same_iff =>
    have rendered := Planner.renders_of_bootstrap completeFirst rfl declaredBefore operation
    have rendered' := Planner.renders_of_bootstrap completeSecond rfl declared operation
    rw [named] at rendered ⊢
    exact Planner.renders_eq_iff validBefore validAfter (equivalent operation) rendered rendered'
  case removed_iff =>
    exact Planner.removes_unrecorded_iff validBefore validAfter rfl complete declared unrecorded rfl
  case left_iff =>
    intro depends agrees
    obtain ⟨start, ranFirst, sound, held⟩ := Planner.policy?_of_bootstrap validBefore rfl
      completeFirst declaredBefore operation depends
    obtain ⟨all, ranSecond, -, wanted⟩ := Planner.policy?_of_bootstrap validAfter rfl
      completeSecond declared operation depends
    obtain ⟨final, ran, -⟩ :=
      Planner.run_carryOut_access depends validBefore validAfter sound rfl complete
    refine ⟨start, final, all, ranFirst, ran, ranSecond, ?_⟩
    have uncreated : ∀ text, .createPolicy table.name operation text ∉
        (planner'.carryOut (.between before after)).statements :=
      Planner.uncreated_of_unrecorded rfl complete unrecorded
    rw [named] at held agrees ⊢
    rw [wanted]
    exact DatabaseAccess.run_policy?_eq_iff ran uncreated held agrees

/-- People with their names. -/
def namedPeople (name : String) : Table where
  name := name
  fields := [
    { name := "id", type := .uuid, nullable := false, primaryKey := true },
    { name := "name", type := .text }]

/-- Notes that only their owner may read, who is one of some people. -/
def privateNotes (people : String) : Table where
  name := "notes"
  fields := [
    { name := "id", type := .uuid, nullable := false, primaryKey := true },
    { name := "owner_id", type := .uuid, foreignKey := some { table := people, field := "id" } }]
  access := { read := .expr (.compare .eq (.field "owner_id.name") (.var "auth.uid")) }

/-- Notes of users, and guests. -/
def userNotes : Snapshot where
  tables := [namedPeople "users", namedPeople "guests", privateNotes "users"]

/-- Notes of users, without guests. -/
def onlyUserNotes : Snapshot where
  tables := [namedPeople "users", privateNotes "users"]

/-- Notes of guests, without users. -/
def onlyGuestNotes : Snapshot where
  tables := [namedPeople "guests", privateNotes "guests"]

/-- The notes keep their policies, although a table is lost. -/
theorem migrate_leaves_unrecorded_policies_notes :
    ∃ first migration second : Migration,
      ({} : Synthesizer).bootstrap userNotes .postgres = .ok first ∧
      ({} : Synthesizer).migrate userNotes onlyUserNotes .postgres = .ok migration ∧
      ({} : Synthesizer).bootstrap onlyUserNotes .postgres = .ok second ∧
      migration.statements.length = 1 ∧
      ∃ p, .createPolicy "notes" .read p ∈ first.statements ∧
        .createPolicy "notes" .read p ∈ second.statements ∧
        ¬ ∃ s ∈ migration.statements, s.RemovesPolicy "notes" .read
          (userNotes.PolicyReads {} (fun _ _ => []) (privateNotes "users") .read) := by
  obtain ⟨first, madeFirst⟩ : ∃ first : Migration,
      ({} : Synthesizer).bootstrap userNotes .postgres = .ok first := ⟨_, rfl⟩
  obtain ⟨second, madeSecond⟩ : ∃ second : Migration,
      ({} : Synthesizer).bootstrap onlyUserNotes .postgres = .ok second := ⟨_, rfl⟩
  have made : ({} : Synthesizer).migrate userNotes onlyUserNotes .postgres = .ok _ := rfl
  obtain ⟨p, q, leaves⟩ := migrate_leaves_unrecorded_policies (fun _ _ => []) .read
    (by decide : userNotes.validate = .ok ()) (by decide : onlyUserNotes.validate = .ok ())
    madeFirst made madeSecond
    (rfl : userNotes.table? (privateNotes "users").name = some (privateNotes "users"))
    (.tail _ (.head _)) (List.forall_mem_nil _)
  have same : p = q := leaves.same_iff.mpr ⟨rfl, by decide⟩
  have kept : ∀ source ∈ userNotes.policySources {} (fun _ _ => []) (privateNotes "users") .read,
      ¬ userNotes.Loses onlyUserNotes source.owner := by decide
  refine ⟨first, _, second, madeFirst, made, madeSecond, rfl, p, (leaves.created p).mpr rfl,
    (leaves.wanted p).mpr same, fun removed => ?_⟩
  obtain ⟨-, lost, ⟨source, reads, rfl⟩, loses⟩ := leaves.removed_iff.mp removed
  exact kept source reads loses

/-- The notes of users become notes of guests, and the users are lost. Nothing is recorded for the
notes. Still the predicate of their policy is another one, and the former one goes with the users.
-/
theorem migrate_leaves_outdated_policies :
    userNotes.validate = .ok () ∧ onlyGuestNotes.validate = .ok () ∧
    ∃ first migration second : Migration, ∃ p q : String,
      ({} : Synthesizer).bootstrap userNotes .postgres = .ok first ∧
      ({} : Synthesizer).migrate userNotes onlyGuestNotes .postgres = .ok migration ∧
      ({} : Synthesizer).bootstrap onlyGuestNotes .postgres = .ok second ∧
      migration.access.length = 0 ∧
      .createPolicy "notes" .read p ∈ first.statements ∧
      .createPolicy "notes" .read q ∈ second.statements ∧ p ≠ q ∧
      ∃ s ∈ migration.statements, s.RemovesPolicy "notes" .read
        (userNotes.PolicyReads {} (fun _ _ => []) (privateNotes "users") .read) := by
  refine ⟨by decide, by decide, _, _, _, _, _, rfl, rfl, rfl, rfl,
    List.mem_iff_getElem?.mpr ⟨27, rfl⟩, List.mem_iff_getElem?.mpr ⟨17, rfl⟩, by decide, ?_⟩
  exact ⟨.dropTable "users" true, .head _, .inr ⟨rfl, by decide⟩⟩

end SchemaDelta
