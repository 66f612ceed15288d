import SchemaDelta.Proofs.Policies.Recorded
import SchemaDelta.Proofs.Rendering

/-!
# Replaying blocks of policies

Blocks of policies can be executed on any database that has their tables, whatever policies there
are. The names of the policies of a table differ from each other, and all of them are dropped before
any is created, so no policy is created that is there. Each block settles its own table; together
they leave other tables and policies by other names alone, and a second time they change nothing.
-/

namespace SchemaDelta

namespace Planner

variable {planner : Planner} {change : AccessChange} {changes : List AccessChange}
  (depends : String → Policy → Bool) {access : DatabaseAccess}

/-- A block settles its table and no other. -/
theorem run_policyStatements_access {former : TableAccess}
    (held : access change.table = some former) :
    access.run depends (planner.policyStatements change) =
      some (Function.update access change.table (some (planner.replay change former))) := by
  refine foldlM_at_key (DatabaseAccess.execute depends) TableAccess.alter change.table _ ?_ held
    (run_policyStatements former)
  intro s among
  exact DatabaseAccess.execute_eq_alterAt (alteredTable_of_mem_policyStatements among)

/-- The first statement of a block needs its table. -/
theorem there_of_run {script : List Statement} {state : DatabaseAccess}
    (ran : access.run depends (.enableRowSecurity change.table :: script) = some state) :
    ∃ former, access change.table = some former := by
  obtain ⟨next, executed, -⟩ := Option.bind_eq_some_iff.mp ran
  obtain ⟨former, -, held, -⟩ := DatabaseAccess.execute_of_alteredTable?
    (rfl : Statement.alteredTable? _ = some change.table) executed
  exact ⟨former, held⟩

theorem free_of_split {earlier later : List Statement} {state : DatabaseAccess}
    {table predicate : String} {operation : Operation}
    (split : planner.policyStatements change =
      earlier ++ .createPolicy table operation predicate :: later)
    (ran : access.run depends earlier = some state) :
    ∃ found, state table = some found ∧
      found.policies (Sql.policyName table operation) = none := by
  cases earlier with
  | nil => cases split
  | cons s earlier =>
    obtain rfl : Statement.enableRowSecurity change.table = s := (List.cons.inj split).1
    obtain ⟨former, held⟩ := there_of_run depends ran
    have whole : access.run depends (planner.policyStatements change) = some _ :=
      run_policyStatements_access depends held
    rw [split] at whole
    obtain ⟨reached, next, ran', executed⟩ := foldlM_reach whole
    obtain rfl : state = reached := Option.some.inj (ran.symm.trans ran')
    exact Statement.unclaimed_of_execute executed

/-- No policy is created that is there. -/
theorem free_of_flatMap_split {later : List Statement} {state : DatabaseAccess}
    {table predicate : String} {operation : Operation} :
    ∀ {changes : List AccessChange} {earlier : List Statement} {access : DatabaseAccess},
      changes.flatMap planner.policyStatements =
        earlier ++ .createPolicy table operation predicate :: later →
      access.run depends earlier = some state →
      ∃ found, state table = some found ∧
        found.policies (Sql.policyName table operation) = none := by
  intro changes
  induction changes with
  | nil =>
    intro earlier access split _
    simp at split
  | cons change changes ih =>
    intro earlier access split ran
    rw [List.flatMap_cons] at split
    have passed : ∀ rest, earlier = planner.policyStatements change ++ rest →
        changes.flatMap planner.policyStatements =
          rest ++ .createPolicy table operation predicate :: later →
        ∃ found, state table = some found ∧
          found.policies (Sql.policyName table operation) = none := by
      rintro rest rfl others
      rw [DatabaseAccess.run_append] at ran
      obtain ⟨next, -, ran⟩ := Option.bind_eq_some_iff.mp ran
      exact ih others ran
    rcases List.append_eq_append_iff.mp split with ⟨rest, whole, others⟩ | ⟨rest, block, others⟩
    · exact passed rest whole others
    · cases rest with
      | nil => exact passed [] (by simp [block]) others.symm
      | cons s rest =>
        obtain ⟨rfl, -⟩ := List.cons.inj others
        exact free_of_split depends block ran

/-- A script of blocks needs all their tables. -/
theorem there_of_run_flatMap {final : DatabaseAccess} :
    ∀ {changes : List AccessChange} {access : DatabaseAccess},
      access.run depends (changes.flatMap planner.policyStatements) = some final →
      ∀ change ∈ changes, (access change.table).isSome := by
  intro changes
  induction changes with
  | nil =>
    intro access _ change member
    cases member
  | cons change changes ih =>
    intro access ran
    obtain ⟨former, held⟩ := there_of_run depends ran
    rw [List.flatMap_cons, DatabaseAccess.run_append, run_policyStatements_access depends held,
      Option.bind_some] at ran
    refine List.forall_mem_cons.mpr ⟨by simp [held], fun other member => ?_⟩
    have there := ih ran other member
    by_cases same : other.table = change.table
    · simp [same, held]
    · rwa [Function.update_of_ne same] at there

/-- The policies of a database after blocks of policies. -/
def replayAll (planner : Planner) (changes : List AccessChange) (access : DatabaseAccess) :
    DatabaseAccess := fun name =>
  match changes.find? (·.table == name) with
  | some change => (access name).map (planner.replay change)
  | none => access name

section Distinct

variable (distinct : (changes.map AccessChange.table).Nodup)

include distinct in
theorem replayAll_of_mem (member : change ∈ changes) :
    planner.replayAll changes access change.table =
      (access change.table).map (planner.replay change) := by
  rw [replayAll, (find?_name_eq_some_iff distinct).mpr ⟨member, rfl⟩]

theorem replayAll_of_not_mem {name : String} (absent : name ∉ changes.map AccessChange.table) :
    planner.replayAll changes access name = access name := by
  have unlisted : changes.find? (·.table == name) = none := by
    rwa [← Option.not_isSome_iff_eq_none, find?_name_isSome_iff]
  rw [replayAll, unlisted]

theorem replayAll_isSome (name : String) :
    (planner.replayAll changes access name).isSome = (access name).isSome := by
  unfold replayAll
  split <;> simp

include distinct

/-- Blocks of policies run on every database that has their tables. -/
theorem run_policyBlocks (there : ∀ change ∈ changes, (access change.table).isSome) :
    access.run depends (changes.flatMap planner.policyStatements) =
      some (planner.replayAll changes access) := by
  have ran := foldlM_overlay (DatabaseAccess.execute depends) (fun _ => True) access
    (planner.replayAll changes access) AccessChange.table planner.policyStatements changes distinct
    ?_ access trivial fun _ _ => rfl
  · refine ran.trans (congrArg some (funext fun name => ?_))
    by_cases listed : name ∈ changes.map AccessChange.table
    · exact overlay_of_mem listed
    · rw [overlay_of_not_mem listed, replayAll_of_not_mem listed]
  · intro change member map _ same
    obtain ⟨former, held⟩ := Option.isSome_iff_exists.mp (there change member)
    rw [replayAll_of_mem distinct member, held, Option.map_some]
    exact ⟨run_policyStatements_access depends (same.trans held), trivial⟩

theorem run_policyBlocks_iff {final : DatabaseAccess} :
    access.run depends (changes.flatMap planner.policyStatements) = some final ↔
      (∀ change ∈ changes, (access change.table).isSome) ∧
        planner.replayAll changes access = final := by
  constructor
  · intro ran
    have there := there_of_run_flatMap depends ran
    exact ⟨there, Option.some.inj ((run_policyBlocks depends distinct there).symm.trans ran)⟩
  · rintro ⟨there, rfl⟩
    exact run_policyBlocks depends distinct there

theorem replayAll_replayAll :
    planner.replayAll changes (planner.replayAll changes access) =
      planner.replayAll changes access := by
  funext name
  by_cases listed : name ∈ changes.map AccessChange.table
  · obtain ⟨change, member, rfl⟩ := List.mem_map.mp listed
    rw [replayAll_of_mem distinct member, replayAll_of_mem distinct member]
    cases access change.table with
    | none => rfl
    | some former => simp only [Option.map_some, replay_replay]
  · rw [replayAll_of_not_mem listed]

end Distinct

/-- A table was settled by its access change: its rows are secured, and of the policies for its
operations it has those that are recorded, with their new conditions. -/
structure Settles (planner : Planner) (change : AccessChange) (former found : TableAccess) :
    Prop where
  secured : found.rowSecurity = true
  recorded : ∀ operation rule, change.get operation = some rule →
    ∃ sql, planner.predicate change.table operation rule.after = .ok sql ∧
      found.policies (Sql.policyName change.table operation) = some ⟨operation, sql⟩
  unrecorded : ∀ operation, change.get operation = none →
    found.policies (Sql.policyName change.table operation) = none
  others : ∀ name, (∀ operation, name ≠ Sql.policyName change.table operation) →
    found.policies name = former.policies name

theorem settles_replay {block : List Statement} (supported : planner.dialect.supportsPolicies = true)
    (made : planner.policyBlock change = .ok block) (former : TableAccess) :
    planner.Settles change former (planner.replay change former) := by
  have named : ∀ operation, (planner.replay change former).policies
      (Sql.policyName change.table operation) =
        planner.recordedPolicies change (Sql.policyName change.table operation) :=
    fun operation => overlay_of_mem (List.mem_map_of_mem operation.mem_all)
  refine ⟨rfl, ?recorded, ?unrecorded, ?others⟩
  case recorded =>
    intro operation rule recorded
    refine ⟨_, predicate_of_policyBlock supported made recorded, ?_⟩
    rw [named, recordedPolicies_of_get planner recorded]
  case unrecorded =>
    intro operation absent
    rw [named]
    refine recordedPolicies_of_forall_ne fun other recorded same => ?_
    obtain rfl := Sql.policyName_injective change.table same
    simp [absent] at recorded
  case others =>
    intro name other
    refine overlay_of_not_mem fun listed => ?_
    obtain ⟨operation, -, rfl⟩ := List.mem_map.mp listed
    exact other operation rfl

end Planner

/-- Blocks of policies for different tables never create a policy that is there, and they run on
exactly the databases that have their tables, whatever policies these have. They settle their
tables, leave other tables as they are, and change nothing when they are executed again. -/
theorem policy_blocks_can_be_replayed {planner : Planner} {changes : List AccessChange}
    {blocks : List (List Statement)} (depends : String → Policy → Bool)
    (postgres : planner.dialect = .postgres)
    (distinct : (changes.map AccessChange.table).Nodup)
    (made : changes.mapM planner.policyBlock = .ok blocks) (access : DatabaseAccess) :
    (planner.policies changes).Complete ∧
    (planner.policies changes).statements = blocks.flatten ∧
    (∀ earlier later table operation predicate,
      blocks.flatten = earlier ++ .createPolicy table operation predicate :: later →
      ∀ state, access.run depends earlier = some state → ∃ found, state table = some found ∧
        found.policies (Sql.policyName table operation) = none) ∧
    ((access.run depends blocks.flatten).isSome ↔
      ∀ change ∈ changes, (access change.table).isSome) ∧
    ∀ final, access.run depends blocks.flatten = some final →
      (∀ change ∈ changes, ∃ former found, access change.table = some former ∧
        final change.table = some found ∧ planner.Settles change former found) ∧
      (∀ table, table ∉ changes.map AccessChange.table → final table = access table) ∧
      final.run depends blocks.flatten = some final := by
  have supported : planner.dialect.supportsPolicies = true := by rw [postgres]; rfl
  have complete := Planner.complete_policies_of_blocks made
  have script := Planner.flatten_policyBlocks supported made
  refine ⟨complete, ?statements, ?free, ?runs, ?final⟩
  case statements => rw [Planner.statements_policies supported complete, script]
  case free =>
    intro earlier later table operation predicate split state ran
    exact Planner.free_of_flatMap_split depends (script ▸ split) ran
  case runs =>
    rw [script, Option.isSome_iff_exists]
    simp [Planner.run_policyBlocks_iff depends distinct]
  case final =>
    rw [script]
    intro final ran
    obtain ⟨there, rfl⟩ := (Planner.run_policyBlocks_iff depends distinct).mp ran
    refine ⟨?listed, fun table => Planner.replayAll_of_not_mem, ?again⟩
    case listed =>
      intro change member
      obtain ⟨block, made⟩ := exists_of_mapM made member
      obtain ⟨former, held⟩ := Option.isSome_iff_exists.mp (there change member)
      refine ⟨former, _, held, ?_, Planner.settles_replay supported made former⟩
      rw [Planner.replayAll_of_mem distinct member, held, Option.map_some]
    case again =>
      refine (Planner.run_policyBlocks_iff depends distinct).mpr
        ⟨fun change member => ?_, Planner.replayAll_replayAll distinct⟩
      rw [Planner.replayAll_isSome]
      exact there change member

/-- Two tables of which one has the name of a policy of the other. -/
def lookalikes : Snapshot where
  tables := [
    { name := "a", fields := [{ name := "owner", type := .uuid }] },
    { name := "a_read", fields := [{ name := "a_read", type := .text }] }]

/-- New rules for reading the one table, and for reading and deleting from the other. -/
def lookalikeChanges : List AccessChange := [
  { table := "a"
    read := some ⟨.permissive, .expr (.isNull (.field "owner"))⟩
    create := none
    update := none
    delete := none },
  { table := "a_read"
    read := some ⟨.always false, .permissive⟩
    create := none
    update := none
    delete := some ⟨.permissive, .always false⟩ }]

/-- Both tables have a policy of the name that one is about to be created by, and others. -/
def crowdedAccess : DatabaseAccess := fun name =>
  if name = "a" ∨ name = "a_read" then
    some ⟨false, fun policy =>
      if policy = "a_read" ∨ policy = "a_read_read" ∨ policy = "audit" then
        some ⟨.update, "TRUE"⟩ else none⟩
  else none

/-- The planner towards these tables. -/
def lookalikePlanner : Planner := { dialect := .postgres, target := lookalikes }

/-- Policies that are in the way are replaced, and the audit stays. -/
theorem policy_blocks_can_be_replayed_lookalikes :
    ∃ blocks, lookalikeChanges.mapM lookalikePlanner.policyBlock = .ok blocks ∧
      ∃ final found, crowdedAccess.run (fun _ _ => false) blocks.flatten = some final ∧
        final.run (fun _ _ => false) blocks.flatten = some final ∧
        final "a_read" = some found ∧ found.policies "a_read_read" = some ⟨.read, "TRUE"⟩ ∧
        found.policies "a_read" = some ⟨.update, "TRUE"⟩ ∧
        found.policies "audit" = some ⟨.update, "TRUE"⟩ := by
  obtain ⟨blocks, made⟩ : ∃ blocks,
      lookalikeChanges.mapM lookalikePlanner.policyBlock = .ok blocks := ⟨_, rfl⟩
  obtain ⟨-, -, -, runs, settled⟩ := policy_blocks_can_be_replayed (fun _ _ => false) rfl
    (by decide) made crowdedAccess
  obtain ⟨final, ran⟩ := Option.isSome_iff_exists.mp (runs.mpr (by decide))
  obtain ⟨listed, -, again⟩ := settled final ran
  obtain ⟨former, found, held, left, settles⟩ := listed _ (.tail _ (.head _))
  cases held
  refine ⟨blocks, made, final, found, ran, again, left, ?recorded, ?other, ?audit⟩
  case recorded =>
    obtain ⟨sql, text, created⟩ := settles.recorded .read _ rfl
    cases text
    exact created
  all_goals
    refine settles.others _ fun operation => ?_
    cases operation <;> decide

end SchemaDelta
