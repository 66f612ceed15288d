import SchemaDelta.Proofs.Policies.Replay
import SchemaDelta.Proofs.Settlement

/-!
# Policies after a migration

Every table with changed rules ends with row security and with the policies of the recorded
operations as bootstrapping the new snapshot creates them. The policies of its other operations are
dropped and not created again, so only where all operations are recorded the two agree.
-/

namespace SchemaDelta

namespace DatabaseAccess

/-- The tables are those present, and their policies have the names of their operations. -/
structure Sound (present : String → Prop) (access : DatabaseAccess) : Prop where
  tables : ∀ name, (access name).isSome ↔ present name
  named : ∀ name found, access name = some found → found.NamedFor name

variable (depends : String → Policy → Bool) {present : String → Prop} {access : DatabaseAccess}

theorem Sound.congr {present' : String → Prop} (sound : access.Sound present)
    (same : ∀ name, present name ↔ present' name) : access.Sound present' :=
  ⟨fun name => (sound.tables name).trans (same name), sound.named⟩

theorem sound_empty : empty.Sound fun _ => False :=
  ⟨fun name => by simp [empty], fun name found absent => by cases absent⟩

theorem Sound.without (sound : access.Sound present) (table : String) (cascade : Bool) :
    (access.without depends table cascade).Sound fun name => present name ∧ name ≠ table := by
  constructor
  · intro name
    by_cases gone : name = table
    · simp [DatabaseAccess.without, gone]
    · cases cascade <;> simp [DatabaseAccess.without, gone, ← sound.tables]
  · intro name found held policy some
    by_cases gone : name = table
    · simp [DatabaseAccess.without, gone] at held
    · cases cascade with
      | false =>
        rw [DatabaseAccess.without, if_neg gone, if_neg (by simp)] at held
        exact sound.named name found held policy some
      | true =>
        rw [DatabaseAccess.without, if_neg gone, if_pos rfl] at held
        obtain ⟨former, before, rfl⟩ := Option.map_eq_some_iff.mp held
        refine sound.named name former before policy ?_
        obtain ⟨kept, left⟩ := Option.isSome_iff_exists.mp some
        simp [(Option.filter_eq_some_iff.mp left).1]

theorem Sound.update (sound : access.Sound present) {table : String} {found : TableAccess}
    (named : found.NamedFor table) :
    Sound (fun name => present name ∨ name = table)
      (Function.update access table (some found)) := by
  constructor
  · intro name
    by_cases same : name = table
    · simp [same]
    · simp [same, ← sound.tables]
  · intro name other held
    by_cases same : name = table
    · subst same
      rw [Function.update_self, Option.some.injEq] at held
      exact held ▸ named
    · rw [Function.update_of_ne same] at held
      exact sound.named name other held

theorem namedFor_fresh (table : String) : TableAccess.fresh.NamedFor table := by
  intro name some
  cases some

/-- Changes of columns do not change policies. -/
theorem run_of_onTable (sound : access.Sound present) {script : List Statement}
    (on : ∀ s ∈ script, ∃ table, present table ∧ s.OnTable table) :
    access.run depends script = some access := by
  induction script with
  | nil => rfl
  | cons s script ih =>
    obtain ⟨⟨table, there, inTable, columns⟩, others⟩ := List.forall_mem_cons.mp on
    obtain ⟨found, held⟩ := Option.isSome_iff_exists.mp ((sound.tables table).mpr there)
    have kept : found.alter s = some found := by
      cases s <;> first | rfl | cases columns
    rw [run, List.foldlM_cons, execute_eq_alterAt inTable, alterAt_eq_self held kept]
    exact ih others

theorem Sound.run_dropTables (sound : access.Sound present) (tables : List Table) (cascade : Bool)
    (distinct : (tables.map Table.name).Nodup) (there : ∀ table ∈ tables, present table.name) :
    ∃ final, access.run depends (tables.map fun table => .dropTable table.name cascade) =
        some final ∧
      final.Sound fun name => present name ∧ name ∉ tables.map Table.name := by
  induction tables generalizing access present with
  | nil => exact ⟨access, rfl, sound.congr (by simp)⟩
  | cons table tables ih =>
    obtain ⟨different, distinct⟩ := List.nodup_cons.mp distinct
    obtain ⟨first, others⟩ := List.forall_mem_cons.mp there
    obtain ⟨final, ran, settled⟩ := ih (sound.without depends table.name cascade)
      distinct fun other member =>
        ⟨others other member, fun same => different (same ▸ List.mem_map_of_mem member)⟩
    refine ⟨final, ?_, settled.congr fun name => ?_⟩
    · rw [List.map_cons, run, List.foldlM_cons, execute, if_pos ((sound.tables _).mpr first)]
      exact ran
    · rw [List.map_cons, List.mem_cons, not_or, and_assoc]

theorem Sound.run_creates {script : Table → List Statement} (sound : access.Sound present)
    (tables : List Table) (distinct : (tables.map Table.name).Nodup)
    (free : ∀ table ∈ tables, ¬ present table.name)
    (creates : ∀ table ∈ tables, ∃ columns, script table = [.createTable table.name columns]) :
    ∃ final, access.run depends (tables.flatMap script) = some final ∧
      final.Sound fun name => present name ∨ name ∈ tables.map Table.name := by
  induction tables generalizing access present with
  | nil => exact ⟨access, rfl, sound.congr (by simp)⟩
  | cons table tables ih =>
    obtain ⟨different, distinct⟩ := List.nodup_cons.mp distinct
    obtain ⟨first, others⟩ := List.forall_mem_cons.mp free
    obtain ⟨⟨columns, create⟩, creates⟩ := List.forall_mem_cons.mp creates
    obtain ⟨final, ran, settled⟩ := ih (sound.update (namedFor_fresh table.name)) distinct
      (fun other member there =>
        there.elim (others other member) fun same =>
          different (same ▸ List.mem_map_of_mem member)) creates
    refine ⟨final, ?_, settled.congr fun name => ?_⟩
    · have absent : (access table.name).isNone := by
        simpa [← sound.tables] using first
      rw [List.flatMap_cons, create, List.singleton_append, run, List.foldlM_cons, execute,
        if_pos absent]
      exact ran
    · rw [List.map_cons, List.mem_cons, or_assoc]

end DatabaseAccess

namespace Planner

variable {planner : Planner} (depends : String → Policy → Bool) {present : String → Prop}
  {access : DatabaseAccess}

theorem run_createTables_access (sound : access.Sound present) (tables : List Table)
    (distinct : (tables.map Table.name).Nodup) (free : ∀ table ∈ tables, ¬ present table.name)
    (complete : (planner.createTables tables).Complete) :
    ∃ final, access.run depends (planner.createTables tables).statements = some final ∧
      final.Sound fun name => present name ∨ name ∈ tables.map Table.name := by
  obtain ⟨creates, constraints⟩ := Plan.complete_append.mp complete
  rw [createTables, Plan.statements_append creates, DatabaseAccess.run_append]
  rw [Plan.complete_sequence_map] at creates
  rw [Plan.statements_sequence_map creates]
  obtain ⟨final, ran, settled⟩ := sound.run_creates depends tables distinct free
    fun table member => by
      obtain ⟨columns, -, create⟩ := exists_statements_createTable (creates table member)
      exact ⟨columns, create⟩
  refine ⟨final, ?_, settled⟩
  rw [ran, Option.bind_some]
  refine DatabaseAccess.run_of_onTable depends settled ?_
  refine Plan.all_sequence (List.forall_mem_map.mpr fun table member s among => ?_)
  exact ⟨table.name, .inr (List.mem_map_of_mem member), all_addConstraints table s among⟩

theorem namedFor_recordedPolicies (planner : Planner) (change : AccessChange) :
    TableAccess.NamedFor change.table ⟨true, planner.recordedPolicies change⟩ := by
  intro name recorded
  by_contra other
  push Not at other
  have absent : planner.recordedPolicies change name = none :=
    recordedPolicies_of_forall_ne fun operation _ => other operation
  simp [absent] at recorded

/-- The policies leave every table with changed rules with what was recorded. -/
theorem run_policies_access (sound : access.Sound present) (changes : List AccessChange)
    (supported : planner.dialect.supportsPolicies = true)
    (distinct : (changes.map AccessChange.table).Nodup)
    (there : ∀ change ∈ changes, present change.table)
    (complete : (planner.policies changes).Complete) :
    ∃ final, access.run depends (planner.policies changes).statements = some final ∧
      (∀ change ∈ changes,
        final change.table = some ⟨true, planner.recordedPolicies change⟩) ∧
      final.Sound present := by
  have held : ∀ change ∈ changes, (access change.table).isSome := fun change member =>
    (sound.tables _).mpr (there change member)
  have settled : ∀ change ∈ changes,
      planner.replayAll changes access change.table =
        some ⟨true, planner.recordedPolicies change⟩ := by
    intro change member
    obtain ⟨former, found⟩ := Option.isSome_iff_exists.mp (held change member)
    rw [replayAll_of_mem distinct member, found, Option.map_some,
      replay_of_namedFor (sound.named _ _ found)]
  refine ⟨_, by rw [statements_policies supported complete, run_policyBlocks depends distinct held],
    settled, ?tables, ?named⟩
  case tables =>
    intro name
    by_cases recorded : name ∈ changes.map AccessChange.table
    · obtain ⟨change, member, rfl⟩ := List.mem_map.mp recorded
      rw [settled change member]
      exact iff_of_true rfl (there change member)
    · rw [replayAll_of_not_mem recorded, sound.tables]
  case named =>
    intro name value found
    by_cases recorded : name ∈ changes.map AccessChange.table
    · obtain ⟨change, member, rfl⟩ := List.mem_map.mp recorded
      rw [settled change member, Option.some.injEq] at found
      exact found ▸ namedFor_recordedPolicies planner change
    · rw [replayAll_of_not_mem recorded] at found
      exact sound.named name value found

/-- Bootstrapping creates every table with the policies of all its operations. -/
theorem run_bootstrap_access (valid : planner.target.Valid)
    (supported : planner.dialect.supportsPolicies = true) (complete : planner.bootstrap.Complete) :
    ∃ final, DatabaseAccess.empty.run depends planner.bootstrap.statements = some final ∧
      (∀ table ∈ planner.target.tables,
        final table.name = some ⟨true, planner.recordedPolicies (.ofNewTable table)⟩) ∧
      final.Sound (· ∈ planner.target.tableNames) := by
  obtain ⟨creates, policies⟩ := Plan.complete_append.mp complete
  rw [bootstrap, Plan.statements_append creates, DatabaseAccess.run_append]
  obtain ⟨created, ran, sound⟩ := run_createTables_access depends
    DatabaseAccess.sound_empty planner.target.tables valid.tablesDistinct (fun _ _ => not_false)
    creates
  have sound : created.Sound (· ∈ planner.target.tableNames) := sound.congr fun name => by
    rw [false_or, Snapshot.tableNames]
  have tables : (planner.target.tables.map AccessChange.ofNewTable).map AccessChange.table =
      planner.target.tableNames := by
    rw [List.map_map]
    rfl
  obtain ⟨final, ran', recorded, sound⟩ := run_policies_access depends sound
    (planner.target.tables.map .ofNewTable) supported (tables ▸ valid.tablesDistinct)
    (fun change member => tables ▸ List.mem_map_of_mem member) policies
  refine ⟨final, ?_, List.forall_mem_map.mp recorded, sound⟩
  rw [ran, Option.bind_some, ran']

/-- A migration leaves the tables with changed rules with the policies that were recorded. -/
theorem run_carryOut_access {before after : Snapshot} (validBefore : before.Valid)
    (validAfter : after.Valid) (sound : access.Sound (· ∈ before.tableNames))
    (supported : planner.dialect.supportsPolicies = true)
    (complete : (planner.carryOut (.between before after)).Complete) :
    ∃ final, access.run depends (planner.carryOut (.between before after)).statements = some final ∧
      ∀ change ∈ (Diff.between before after).access,
        final change.table = some ⟨true, planner.recordedPolicies change⟩ := by
  obtain ⟨untilModified, policies⟩ := Plan.complete_append.mp complete
  obtain ⟨untilCreated, -⟩ := Plan.complete_append.mp untilModified
  obtain ⟨drops, creates⟩ := Plan.complete_append.mp untilCreated
  rw [carryOut, Plan.statements_append untilModified, Plan.statements_append untilCreated,
    Plan.statements_append drops, DatabaseAccess.run_append, DatabaseAccess.run_append,
    DatabaseAccess.run_append]
  rw [Plan.complete_sequence_map] at drops
  rw [Plan.statements_sequence_map drops]
  simp only [dropTable, Plan.statements_execute, ← List.map_eq_flatMap]
  obtain ⟨dropped, ranDrops, sound⟩ := sound.run_dropTables depends
    (Diff.between before after).removed (planner.dialect.dropsCascade planner.config.dropCascade)
    (Diff.removed_distinct validBefore.tablesDistinct)
    fun table removed => List.mem_map_of_mem (Diff.mem_removed.mp removed).1
  obtain ⟨created, ranCreates, sound⟩ := run_createTables_access depends sound
    (Diff.between before after).added (Diff.added_distinct validAfter.tablesDistinct)
    (fun table added there => Snapshot.table?_eq_none_iff.mp (Diff.mem_added.mp added).2 there.1)
    creates
  have sound : created.Sound (· ∈ after.tableNames) := sound.congr fun name => by
    rw [Diff.mem_removed_names, Diff.mem_added_names]
    tauto
  rw [ranDrops, Option.bind_some, ranCreates, Option.bind_some,
    DatabaseAccess.run_of_onTable depends sound ?_, Option.bind_some]
  · obtain ⟨final, ran, recorded, -⟩ := run_policies_access depends sound
      (Diff.between before after).access supported (Diff.access_distinct validAfter.tablesDistinct)
      (fun change member => Diff.table_of_mem_access validBefore.tablesDistinct member) policies
    exact ⟨final, ran, recorded⟩
  · refine Plan.all_sequence (List.forall_mem_map.mpr fun m modified s member => ?_)
    obtain ⟨table, declared, old, -, -, rfl⟩ :=
      (Diff.mem_modified validBefore.tablesDistinct).mp modified
    exact ⟨table.name, List.mem_map_of_mem declared, all_modifyTable _ s member⟩

end Planner

/-- A table has, of the policies that another table has, those of the recorded operations, and it
has no others. -/
structure TableAccess.Restricts (change : AccessChange) (created left : TableAccess) : Prop where
  rowSecurity : left.rowSecurity = created.rowSecurity
  recorded : ∀ operation, (change.get operation).isSome →
    left.policies (Sql.policyName change.table operation) =
      created.policies (Sql.policyName change.table operation)
  others : ∀ name, (∀ operation, (change.get operation).isSome →
    name ≠ Sql.policyName change.table operation) → left.policies name = none

namespace Planner

section Agreement

variable (planner : Planner) {change : AccessChange} {table : Table}

/-- Bootstrapping creates a policy for every operation. -/
theorem recordedPolicies_ofNewTable (table : Table) (operation : Operation) :
    planner.recordedPolicies (.ofNewTable table) (Sql.policyName table.name operation) =
      some ⟨operation,
        planner.predicateText table.name operation (table.access.get operation)⟩ :=
  recordedPolicies_of_get planner (AccessChange.get_ofNewTable table operation)

variable (named : change.table = table.name)
  (conditions : ∀ operation rule, change.get operation = some rule →
    rule.after = table.access.get operation)

include named conditions

/-- What was recorded of a table are policies that bootstrapping creates. -/
theorem restricts_recorded :
    TableAccess.Restricts change ⟨true, planner.recordedPolicies (.ofNewTable table)⟩
      ⟨true, planner.recordedPolicies change⟩ := by
  refine ⟨rfl, fun operation recorded => ?_, fun name other => ?_⟩
  · obtain ⟨rule, found⟩ := Option.isSome_iff_exists.mp recorded
    change planner.recordedPolicies change _ = planner.recordedPolicies (.ofNewTable table) _
    rw [recordedPolicies_of_get planner found, named, recordedPolicies_ofNewTable,
      conditions operation rule found]
  · exact recordedPolicies_of_forall_ne other

theorem recorded_eq_iff :
    (⟨true, planner.recordedPolicies change⟩ : TableAccess) =
        ⟨true, planner.recordedPolicies (.ofNewTable table)⟩ ↔
      ∀ operation, (change.get operation).isSome := by
  constructor
  · intro same operation
    by_contra missing
    have absent : planner.recordedPolicies change (Sql.policyName table.name operation) = none := by
      refine recordedPolicies_of_forall_ne fun other recorded equal => ?_
      rw [named] at equal
      obtain rfl := Sql.policyName_injective table.name equal
      exact missing recorded
    rw [(TableAccess.mk.inj same).2, recordedPolicies_ofNewTable] at absent
    cases absent
  · intro complete
    refine congrArg (TableAccess.mk true) (funext fun name => ?_)
    by_cases operation : ∃ operation, name = Sql.policyName change.table operation
    · rcases operation with ⟨operation, rfl⟩
      exact (restricts_recorded planner named conditions).recorded operation (complete operation)
    · push Not at operation
      have other : ∀ other, name ≠ Sql.policyName table.name other := fun other =>
        named ▸ operation other
      rw [recordedPolicies_of_forall_ne fun other _ => operation other]
      exact (recordedPolicies_of_forall_ne fun operation _ => other operation).symm

end Agreement

end Planner

/-- After a migration that starts from a bootstrapped snapshot, a table with changed rules has row
security and the policies of the recorded operations as bootstrapping the new snapshot creates them,
and no others. It has all of them exactly if all operations are recorded, as for a new table. -/
theorem migrate_restores_recorded_policies {synthesizer : Synthesizer} {before after : Snapshot}
    {first migration second : Migration} (depends : String → Policy → Bool)
    (acceptedBefore : before.validate = .ok ()) (acceptedAfter : after.validate = .ok ())
    (madeFirst : synthesizer.bootstrap before .postgres = .ok first)
    (made : synthesizer.migrate before after .postgres = .ok migration)
    (madeSecond : synthesizer.bootstrap after .postgres = .ok second) :
    ∃ start final created,
      DatabaseAccess.empty.run depends first.statements = some start ∧
      start.run depends migration.statements = some final ∧
      DatabaseAccess.empty.run depends second.statements = some created ∧
      ∀ change ∈ migration.access, ∃ left all,
        final change.table = some left ∧ created change.table = some all ∧
        left.rowSecurity = true ∧ TableAccess.Restricts change all left ∧
        (left = all ↔ ∀ operation, (change.get operation).isSome) ∧
        (before.table? change.table = none → left = all) := by
  have validBefore := Snapshot.Valid.ofValidate acceptedBefore
  have validAfter := Snapshot.Valid.ofValidate acceptedAfter
  obtain ⟨completeFirst, rfl⟩ := Plan.toMigration_eq_ok_iff.mp madeFirst
  obtain ⟨complete, rfl⟩ := Plan.toMigration_eq_ok_iff.mp made
  obtain ⟨completeSecond, rfl⟩ := Plan.toMigration_eq_ok_iff.mp madeSecond
  obtain ⟨start, ranFirst, -, sound⟩ :=
    Planner.run_bootstrap_access depends validBefore rfl completeFirst
  obtain ⟨created, ranSecond, all, -⟩ :=
    Planner.run_bootstrap_access depends validAfter rfl completeSecond
  obtain ⟨final, ran, recorded⟩ :=
    Planner.run_carryOut_access depends validBefore validAfter sound rfl complete
  refine ⟨start, final, created, ranFirst, ran, ranSecond, fun change member => ?_⟩
  obtain ⟨table, declared, named, conditions, new⟩ :=
    Diff.mem_access validBefore.tablesDistinct member
  let planner : Planner := { synthesizer with dialect := .postgres, target := after }
  refine ⟨_, _, recorded change member, named ▸ all table declared, rfl,
    planner.restricts_recorded named conditions, planner.recorded_eq_iff named conditions,
    fun absent => ?_⟩
  rw [new (named ▸ absent)]

/-- Notes that everybody may change. -/
def openNotes : Snapshot where
  tables := [{ name := "notes", fields := [{ name := "id", type := .uuid, nullable := false }] }]

/-- Notes that nobody may delete. -/
def keptNotes : Snapshot where
  tables := [
    { name := "notes"
      fields := [{ name := "id", type := .uuid, nullable := false }]
      access := { delete := .always false } }]

/-- The notes keep row security and get the policy for deletion. -/
theorem migrate_restores_recorded_policies_notes :
    ∃ first migration second start final created,
      ({} : Synthesizer).bootstrap openNotes .postgres = .ok first ∧
      ({} : Synthesizer).migrate openNotes keptNotes .postgres = .ok migration ∧
      ({} : Synthesizer).bootstrap keptNotes .postgres = .ok second ∧
      DatabaseAccess.empty.run (fun _ _ => false) first.statements = some start ∧
      start.run (fun _ _ => false) migration.statements = some final ∧
      DatabaseAccess.empty.run (fun _ _ => false) second.statements = some created ∧
      migration.access ≠ [] ∧
      ∀ change ∈ migration.access, ∃ left all,
        final change.table = some left ∧ created change.table = some all ∧
        left.rowSecurity = true ∧ TableAccess.Restricts change all left := by
  obtain ⟨start, final, created, ranFirst, ran, ranSecond, restored⟩ :=
    migrate_restores_recorded_policies (fun _ _ => false)
      (by decide : openNotes.validate = .ok ()) (by decide : keptNotes.validate = .ok ())
      (rfl : ({} : Synthesizer).bootstrap _ _ = .ok _)
      (rfl : ({} : Synthesizer).migrate _ _ _ = .ok _)
      (rfl : ({} : Synthesizer).bootstrap _ _ = .ok _)
  refine ⟨_, _, _, start, final, created, rfl, rfl, rfl, ranFirst, ran, ranSecond, ?_, ?_⟩
  · exact List.cons_ne_nil _ _
  · intro change member
    obtain ⟨left, all, foundLeft, foundAll, secured, restricted, -⟩ := restored change member
    exact ⟨left, all, foundLeft, foundAll, secured, restricted⟩

/-- The other policies of the notes are gone, although bootstrapping creates them. -/
theorem migrate_drops_unchanged_policies :
    openNotes.validate = .ok () ∧ keptNotes.validate = .ok () ∧
    ∃ first migration second start final created,
      ({} : Synthesizer).bootstrap openNotes .postgres = .ok first ∧
      ({} : Synthesizer).migrate openNotes keptNotes .postgres = .ok migration ∧
      ({} : Synthesizer).bootstrap keptNotes .postgres = .ok second ∧
      DatabaseAccess.empty.run (fun _ _ => false) first.statements = some start ∧
      start.run (fun _ _ => false) migration.statements = some final ∧
      DatabaseAccess.empty.run (fun _ _ => false) second.statements = some created ∧
      migration.access.map AccessChange.table = ["notes"] ∧
      (final "notes").bind (·.policies "notes_read") = none ∧
      (created "notes").bind (·.policies "notes_read") = some ⟨.read, "TRUE"⟩ := by
  refine ⟨by decide, by decide, ?_⟩
  exact ⟨_, _, _, _, _, _, rfl, rfl, rfl, rfl, rfl, rfl, rfl, rfl, rfl⟩

end SchemaDelta
