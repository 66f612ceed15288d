import SchemaDelta.Proofs.FirstFault
import SchemaDelta.Proofs.Requests
import SchemaDelta.Proofs.Settlement

/-!
# The checks of a migration

Planning a migration checks, in a fixed order, that each modified table is in the target and that
the expressions it needs compile. It fails by the first check that fails, and by nothing else. For
an embedded database only the defaults of new columns are compiled.
-/

namespace SchemaDelta

/-- A check that is made while a migration is planned: a table has to be in the target, or the
expression of a default or a condition has to compile. -/
inductive Check where
  | target (table : String)
  | default (field : String) (request : Request)
  | condition (operation : Operation) (request : Request)

/-- The expression that a check compiles. -/
def Check.request? : Check → Option Request
  | target _ => none
  | default _ request => some request
  | condition _ request => some request

/-- The default of a field, if it is computed. -/
def Field.checks (table : String) (field : Field) : List Check :=
  (field.requests table).map (.default field.name)

/-- The defaults of a new table, in the order of its fields. -/
def Table.checks (table : Table) : List Check := table.fields.flatMap (·.checks table.name)

/-- The new default of a column, where it can be changed. -/
def FieldModification.checks (dialect : Dialect) (table : String) (m : FieldModification) :
    List Check :=
  (m.requests dialect table).map (.default m.name)

/-- A modified table has to be in the target, before its new fields and then its new defaults. -/
def TableModification.checks (dialect : Dialect) (m : TableModification) : List Check :=
  .target m.table :: m.fieldsAdded.flatMap (·.checks m.table) ++
    m.fieldsModified.flatMap (·.checks dialect m.table)

/-- The new conditions of a table, where there are policies. -/
def AccessChange.checks (dialect : Dialect) (change : AccessChange) : List Check :=
  if dialect.supportsPolicies then
    change.changes.flatMap fun rule =>
      (rule.2.after.requests change.table).map (.condition rule.1)
  else []

namespace Diff

/-- The checks of a diff in order: those of the new tables, of the modified ones, and of the
conditions that change. -/
def checks (dialect : Dialect) (diff : Diff) : List Check :=
  diff.added.flatMap Table.checks ++ diff.modified.flatMap (·.checks dialect) ++
    diff.access.flatMap (·.checks dialect)

/-- The checks of the defaults of new columns, in new tables and in modified ones. -/
def newColumnChecks (diff : Diff) : List Check :=
  diff.added.flatMap Table.checks ++
    diff.modified.flatMap fun m => m.fieldsAdded.flatMap (·.checks m.table)

end Diff

namespace Planner

/-- A check fails, and the error it fails by. -/
inductive CheckFault (planner : Planner) : Check → SchemaError → Prop
  | target {table : String} (missing : planner.target.table? table = none) :
    CheckFault planner (.target table) (.missingTargetTable table)
  | default {field : String} {request : Request} {cause : CompileError}
    (uncompiled : planner.compile request = .error cause) :
    CheckFault planner (.default field request) (.defaultCompile request.table field cause)
  | condition {operation : Operation} {request : Request} {cause : CompileError}
    (uncompiled : planner.compile request = .error cause) :
    CheckFault planner (.condition operation request)
      (.policyCompile request.table operation cause)

/-- The error that a check fails by. -/
def fault? (planner : Planner) : Check → Option SchemaError
  | .target table =>
    match planner.target.table? table with
    | some _ => none
    | none => some (.missingTargetTable table)
  | .default field request =>
    (failure? (planner.compile request)).map (.defaultCompile request.table field)
  | .condition operation request =>
    (failure? (planner.compile request)).map (.policyCompile request.table operation)

/-- The plan makes these checks: it ends early by the first of them that fails, and by nothing
else. -/
def Makes (planner : Planner) (checks : List Check) (plan : Plan) : Prop :=
  plan.failure = checks.findSome? planner.fault?

variable {planner : Planner}

theorem fault?_eq_some_iff (check : Check) (e : SchemaError) :
    planner.fault? check = some e ↔ planner.CheckFault check e := by
  cases check with
  | target table =>
    rw [fault?]
    constructor
    · intro failed
      cases found : planner.target.table? table with
      | some declaration =>
        rw [found] at failed
        cases failed
      | none =>
        rw [found] at failed
        cases failed
        exact .target found
    · rintro ⟨missing⟩
      rw [missing]
  | default field request =>
    rw [fault?, Option.map_eq_some_iff]
    constructor
    · rintro ⟨cause, uncompiled, rfl⟩
      exact .default (failure?_eq_some_iff.mp uncompiled)
    · rintro (_ | uncompiled)
      exact ⟨_, failure?_eq_some_iff.mpr uncompiled, rfl⟩
  | condition operation request =>
    rw [fault?, Option.map_eq_some_iff]
    constructor
    · rintro ⟨cause, uncompiled, rfl⟩
      exact .condition (failure?_eq_some_iff.mp uncompiled)
    · rintro (_ | _ | uncompiled)
      exact ⟨_, failure?_eq_some_iff.mpr uncompiled, rfl⟩

section Makes

variable {checks checks' : List Check} {plan plan' : Plan}

theorem makes_nil (complete : plan.Complete) : planner.Makes [] plan := complete

theorem Makes.append (first : planner.Makes checks plan) (second : planner.Makes checks' plan') :
    planner.Makes (checks ++ checks') (plan ++ plan') := by
  rw [Makes, Plan.failure_append_eq, List.findSome?_append, ← first, ← second]

theorem Makes.append_complete (first : planner.Makes checks plan) (complete : plan'.Complete) :
    planner.Makes checks (plan ++ plan') := by
  have both := first.append (makes_nil complete)
  rwa [List.append_nil] at both

theorem Makes.after_complete (second : planner.Makes checks plan) (complete : plan'.Complete) :
    planner.Makes checks (plan' ++ plan) :=
  (makes_nil complete).append second

theorem makes_sequence {α : Type} {items : List α} {each : α → Plan} {wanted : α → List Check}
    (makes : ∀ item ∈ items, planner.Makes (wanted item) (each item)) :
    planner.Makes (items.flatMap wanted) (.sequence (items.map each)) := by
  induction items with
  | nil => exact makes_nil rfl
  | cons item items ih =>
    obtain ⟨head, tail⟩ := List.forall_mem_cons.mp makes
    exact head.append (ih tail)

end Makes

/-! ## The parts of a plan -/

theorem failure?_defaultSql (table column : String) (value : DefaultValue) :
    failure? (planner.defaultSql table column value) =
      ((value.requests table).map (Check.default column)).findSome? planner.fault? := by
  cases value with
  | constant value => rfl
  | computed e =>
    simp only [defaultSql, computedDefault, DefaultValue.requests, List.map_singleton,
      List.findSome?_singleton, fault?, compile]
    cases planner.compiler (planner.scope table) e.uppercaseCalls <;> rfl

theorem failure?_renderDefault (table column : String) (value : DefaultValue) :
    failure? (planner.renderDefault table column value) =
      ((value.requests table).map (Check.default column)).findSome? planner.fault? := by
  rw [← failure?_defaultSql]
  apply failure?_bind_ok

theorem failure?_column (table : String) (field : Field) :
    failure? (planner.column table field) = (field.checks table).findSome? planner.fault? := by
  have whole : failure? (planner.column table field) =
      failure? (planner.fieldDefault table field) := by
    apply failure?_bind_ok
  rw [whole, fieldDefault, Field.checks, Field.requests]
  cases field.default with
  | none => rfl
  | some value =>
    refine Eq.trans ?_ (failure?_renderDefault table field.name value)
    apply failure?_bind_ok

theorem makes_createTables (tables : List Table) :
    planner.Makes (tables.flatMap Table.checks) (planner.createTables tables) := by
  refine Makes.append_complete (makes_sequence ?_) ?_
  · intro table _
    rw [Makes, createTable, Plan.failure_ofResult fun _ => Plan.complete_execute _,
      failure?_mapM, Table.checks, findSome?_flatMap]
    exact congrArg (table.fields.findSome? ·) (funext (failure?_column table.name))
  · apply Plan.complete_sequence_map.mpr
    intro table _
    exact complete_addConstraints table

theorem makes_addField (table : String) (field : Field) :
    planner.Makes (field.checks table) (planner.addField table field) := by
  rw [Makes, addField, Plan.failure_ofResult, failure?_column]
  intro column
  exact Plan.complete_append.mpr ⟨rfl, complete_addConstraint _⟩

theorem makes_alterDefault (table : String) (m : FieldModification) :
    planner.Makes (m.checks planner.dialect table)
      (onChange (planner.alterDefault table m.name) m.default) := by
  rw [FieldModification.checks, FieldModification.requests]
  rcases m.default with _ | ⟨before, after⟩
  · rw [ite_self]
    exact makes_nil rfl
  · rw [onChange, alterDefault, Dialect.supportsAlterColumnConstraints]
    cases embedded : planner.dialect.isEmbedded with
    | true => exact makes_nil rfl
    | false =>
      cases after with
      | none => exact makes_nil rfl
      | some value =>
        refine Eq.trans ?_ (failure?_renderDefault table m.name value)
        exact Plan.failure_ofResult fun _ => rfl

/-- Of the constraints of a column only the default is compiled. -/
theorem makes_alterConstraints (table : String) (m : FieldModification) :
    planner.Makes (m.checks planner.dialect table) (planner.alterConstraints table m) := by
  refine ((makes_alterDefault table m).after_complete ?nullable).append_complete ?foreignKey
  case nullable => exact complete_onChange complete_alterNullable
  case foreignKey => exact complete_onChange complete_alterForeignKey

/-- A column is rebuilt where its default cannot be changed, and that compiles nothing. -/
theorem makes_modifyField (declaration : Table) (m : FieldModification) :
    planner.Makes (m.checks planner.dialect declaration.name)
      (planner.modifyField declaration m) := by
  have constraints : planner.Makes (m.checks planner.dialect declaration.name)
      (planner.alterConstraints declaration.name m) := makes_alterConstraints declaration.name m
  unfold modifyField
  refine Makes.append_complete ?_ (complete_onChange_warn _ _)
  cases m.type with
  | none => exact constraints
  | some change =>
    simp only [Dialect.supportsAlterColumnType]
    by_cases embedded : planner.dialect.isEmbedded
    · rw [FieldModification.checks, FieldModification.requests, if_pos embedded]
      simp only [embedded]
      exact makes_nil (complete_rebuildColumn _ _ _)
    · simp only [embedded]
      exact constraints.after_complete rfl

theorem makes_modifyTable (m : TableModification) :
    planner.Makes (m.checks planner.dialect) (planner.modifyTable m) := by
  unfold modifyTable TableModification.checks
  cases found : planner.target.table? m.table with
  | none =>
    rw [Makes, List.cons_append, List.findSome?_cons, fault?, found]
    rfl
  | some declaration =>
    have adds : planner.Makes (m.fieldsAdded.flatMap (·.checks m.table))
        (.sequence (m.fieldsAdded.map (planner.addField m.table))) :=
      makes_sequence fun field _ => makes_addField m.table field
    have modifies : planner.Makes (m.fieldsModified.flatMap (·.checks planner.dialect m.table))
        (.sequence (m.fieldsModified.map (planner.modifyField declaration))) := by
      apply makes_sequence
      intro change _
      rw [← Snapshot.name_of_table? found]
      exact makes_modifyField declaration change
    have removes :
        (Plan.sequence (m.fieldsRemoved.map (planner.removeField m.table))).Complete := by
      apply Plan.complete_sequence_map.mpr
      intro field _
      exact Plan.complete_append.mpr ⟨complete_dropConstraint _, rfl⟩
    -- nothing is compiled for a removed column
    have all := (adds.append_complete removes).append modifies
    rw [Makes, List.cons_append, List.findSome?_cons, fault?, found]
    exact all

theorem failure?_policyBlock (change : AccessChange) :
    failure? (planner.policyBlock change) =
      (change.checks planner.dialect).findSome? planner.fault? := by
  have create (rule : Operation × Change Condition) :
      failure? (planner.createPolicy change.table rule) =
        ((rule.2.after.requests change.table).map (Check.condition rule.1)).findSome?
          planner.fault? := by
    have whole : failure? (planner.createPolicy change.table rule) =
        failure? (planner.predicate change.table rule.1 rule.2.after) := by
      apply failure?_bind_ok
    rw [whole]
    cases rule.2.after with
    | always allowed => rfl
    | expr e =>
      simp only [predicate, Condition.requests, List.map_singleton, List.findSome?_singleton,
        fault?, compile]
      cases planner.compiler (planner.scope change.table) e <;> rfl
  unfold policyBlock AccessChange.checks
  cases planner.dialect.supportsPolicies with
  | false => rfl
  | true =>
    simp only [if_true]
    rw [findSome?_flatMap]
    refine Eq.trans ?_ (congrArg (change.changes.findSome? ·) (funext create))
    rw [← failure?_mapM]
    apply failure?_bind_ok

theorem makes_policies (changes : List AccessChange) :
    planner.Makes (changes.flatMap (·.checks planner.dialect)) (planner.policies changes) := by
  have notes : planner.Makes (changes.flatMap (·.checks planner.dialect))
      (.sequence (changes.map fun change =>
        .ofResult (planner.policyBlock change) (notePolicies change.table))) := by
    apply makes_sequence
    intro change _
    rw [Makes, Plan.failure_ofResult, failure?_policyBlock]
    intro block
    unfold notePolicies
    split <;> rfl
  have statements : planner.Makes (changes.flatMap (·.checks planner.dialect))
      (.sequence (changes.map fun change =>
        .ofResult (planner.policyBlock change) .execute)) := by
    apply makes_sequence
    intro change _
    rw [Makes, Plan.failure_ofResult, failure?_policyBlock]
    exact Plan.complete_execute
  -- notes and statements are made of the same blocks, so each block is checked once
  rw [Makes, policies, Plan.failure_append_eq, notes, statements, Option.or_self]

/-- Carrying out a diff makes its checks in order. -/
theorem makes_carryOut (diff : Diff) :
    planner.Makes (diff.checks planner.dialect) (planner.carryOut diff) := by
  refine Makes.append (Makes.append (Makes.after_complete ?created ?dropped) ?modified) ?policies
  case dropped =>
    apply Plan.complete_sequence_map.mpr
    intro table _
    rfl
  case created => exact makes_createTables diff.added
  case modified => exact makes_sequence fun m _ => makes_modifyTable m
  case policies => exact makes_policies diff.access

end Planner

/-! ## The requests among the checks -/

/-- Checks that are made of requests ask for just these. -/
theorem Check.filterMap_request?_map {make : Request → Check}
    (asks : ∀ request, (make request).request? = some request) (requests : List Request) :
    (requests.map make).filterMap Check.request? = requests := by
  have same : Check.request? ∘ make = some := funext asks
  rw [List.filterMap_map, same, List.filterMap_some]

theorem Field.filterMap_request?_checks (table : String) (field : Field) :
    (field.checks table).filterMap Check.request? = field.requests table :=
  Check.filterMap_request?_map (fun _ => rfl) _

theorem FieldModification.filterMap_request?_checks (dialect : Dialect) (table : String)
    (m : FieldModification) :
    (m.checks dialect table).filterMap Check.request? = m.requests dialect table :=
  Check.filterMap_request?_map (fun _ => rfl) _

theorem TableModification.filterMap_request?_checks (dialect : Dialect) (m : TableModification) :
    (m.checks dialect).filterMap Check.request? = m.requests dialect := by
  rw [checks, requests, List.cons_append, List.filterMap_cons_none rfl, List.filterMap_append,
    List.filterMap_flatMap, List.filterMap_flatMap]
  simp only [Field.filterMap_request?_checks, FieldModification.filterMap_request?_checks]

theorem AccessChange.filterMap_request?_checks (dialect : Dialect) (change : AccessChange) :
    (change.checks dialect).filterMap Check.request? = change.requests dialect := by
  have conditions (rule : Operation × Change Condition) :
      ((rule.2.after.requests change.table).map (Check.condition rule.1)).filterMap
        Check.request? = rule.2.after.requests change.table :=
    Check.filterMap_request?_map (fun _ => rfl) _
  rw [checks, requests]
  split
  · rw [List.filterMap_flatMap]
    simp only [conditions]
  · rfl

namespace Diff

/-- The checks compile what the diff wants to have compiled, in that order. -/
theorem filterMap_request?_checks (dialect : Dialect) (diff : Diff) :
    (diff.checks dialect).filterMap Check.request? = diff.requests dialect := by
  have tables (table : Table) : table.checks.filterMap Check.request? = table.requests := by
    rw [Table.checks, Table.requests, List.filterMap_flatMap]
    simp only [Field.filterMap_request?_checks]
  rw [checks, requests, List.filterMap_append, List.filterMap_append, List.filterMap_flatMap,
    List.filterMap_flatMap, List.filterMap_flatMap]
  simp only [tables, TableModification.filterMap_request?_checks,
    AccessChange.filterMap_request?_checks]

/-- For an embedded database, a check that compiles something compiles the default of a new
column. -/
theorem mem_newColumnChecks_of_embedded {dialect : Dialect} {diff : Diff} {check : Check}
    (embedded : dialect.isEmbedded) (member : check ∈ diff.checks dialect) :
    (∃ table, check = .target table) ∨ check ∈ diff.newColumnChecks := by
  rw [checks, List.mem_append, List.mem_append] at member
  rw [newColumnChecks, List.mem_append]
  rcases member with (created | modified) | access
  · exact .inr (.inl created)
  · obtain ⟨m, among, member⟩ := List.mem_flatMap.mp modified
    rw [TableModification.checks, List.cons_append, List.mem_cons, List.mem_append] at member
    rcases member with rfl | added | altered
    · exact .inl ⟨m.table, rfl⟩
    · exact .inr (.inr (List.mem_flatMap.mpr ⟨m, among, added⟩))
    · obtain ⟨change, -, member⟩ := List.mem_flatMap.mp altered
      rw [FieldModification.checks, FieldModification.requests, if_pos embedded] at member
      cases member
  · obtain ⟨change, -, member⟩ := List.mem_flatMap.mp access
    rw [AccessChange.checks, Dialect.supportsPolicies, embedded] at member
    cases member

end Diff

/-! ## Failing migrations -/

/-- A migration fails by the first of its checks that fails, and is made if none does. For an
embedded database it rests on the compiler only for the defaults of new columns. -/
theorem migration_fails_by_first_check (synthesizer : Synthesizer)
    (before after target : Snapshot) (dialect : Dialect) :
    let planner : Planner := { synthesizer with dialect, target }
    let diff := Diff.between before after
    (∀ e, synthesizer.synthesize diff target dialect = .error e ↔
      FirstFault planner.CheckFault (diff.checks dialect) e) ∧
    ((∃ migration, synthesizer.synthesize diff target dialect = .ok migration) ↔
      ∀ check ∈ diff.checks dialect, ∀ e, ¬ planner.CheckFault check e) ∧
    (dialect.isEmbedded →
      (∀ e, synthesizer.synthesize diff target dialect = .error e →
        (∃ table, e = .missingTargetTable table) ∨
          ∃ check ∈ diff.newColumnChecks, planner.CheckFault check e) ∧
      ∀ compiler : Compiler,
        (∀ check ∈ diff.newColumnChecks, ∀ request, check.request? = some request →
          compiler (planner.scope request.table) request.expr = planner.compile request) →
        ({ synthesizer with compiler } : Synthesizer).synthesize diff target dialect =
          synthesizer.synthesize diff target dialect) := by
  intro planner diff
  have makes : (planner.carryOut diff).failure =
      (diff.checks dialect).findSome? planner.fault? := Planner.makes_carryOut diff
  have first (e : SchemaError) : synthesizer.synthesize diff target dialect = .error e ↔
      FirstFault planner.CheckFault (diff.checks dialect) e := by
    refine Plan.toMigration_eq_error_iff.trans ?_
    rw [← findSome?_eq_some_iff_firstFault Planner.fault?_eq_some_iff, ← makes]
    rfl
  refine ⟨first, ?made, fun embedded => ⟨?errors, ?compilers⟩⟩
  case made =>
    rw [← findSome?_eq_none_iff_forall Planner.fault?_eq_some_iff, ← makes]
    constructor
    · rintro ⟨migration, made⟩
      exact (Plan.toMigration_eq_ok_iff.mp made).1
    · intro complete
      exact ⟨_, Plan.toMigration_eq_ok_iff.mpr ⟨complete, rfl⟩⟩
  case errors =>
    intro e failed
    obtain ⟨_, check, _, checks, -, faulty⟩ := (first e).mp failed
    have member : check ∈ diff.checks dialect := by
      rw [checks]
      exact List.mem_append_right _ List.mem_cons_self
    rcases Diff.mem_newColumnChecks_of_embedded embedded member with ⟨table, rfl⟩ | new
    · cases faulty with
      | target missing => exact .inl ⟨table, rfl⟩
    · exact .inr ⟨check, new, faulty⟩
  case compilers =>
    intro compiler agree
    let other : Planner := { planner with compiler }
    have agrees : planner.Agrees other (diff.requests dialect) := by
      apply Planner.agrees_of_forall
      intro request member
      rw [← Diff.filterMap_request?_checks, List.mem_filterMap] at member
      obtain ⟨check, member, compiles⟩ := member
      rcases Diff.mem_newColumnChecks_of_embedded embedded member with ⟨table, rfl⟩ | new
      · cases compiles
      · exact (agree check new request compiles).symm
    have alike : planner.Alike other := ⟨rfl, rfl⟩
    have same := (Planner.planRests_carryOut alike fun _ _ => rfl).same agrees
    exact congrArg (·.toMigration dialect diff.access) same.symm

/-- Visits with the time that they end. -/
def visits : Snapshot where
  tables := [{ name := "visits", fields := [{ name := "end", type := .datetime }] }]

/-- Visits that last for some time by default and that their guests can read, neither of which has
SQL. -/
def timedVisits : Snapshot where
  tables := [{
    name := "visits"
    fields := [
      { name := "begin", type := .datetime, default := some (.computed (.call "now" [])) },
      { name := "end", type := .datetime, default := some (.computed (.call "soon" [])) }]
    access := { read := .expr (.isNull (.field "guest")) } }]

/-- Elsewhere the default is the first to fail; for an embedded database a compiler that only knows
the time makes the same migration. -/
theorem migration_fails_by_first_check_visits :
    FirstFault ({ dialect := .postgres, target := timedVisits } : Planner).CheckFault
      ((Diff.between visits timedVisits).checks .postgres)
      (.defaultCompile "visits" "end" (.unknownFunction "SOON")) ∧
    (∀ check ∈ (Diff.between visits timedVisits).checks .sqlite, ∀ e,
      ¬ ({ dialect := .sqlite, target := timedVisits } : Planner).CheckFault check e) ∧
    ({ compiler := fun _ _ => .ok "CURRENT_TIMESTAMP" } : Synthesizer).synthesize
        (.between visits timedVisits) timedVisits .sqlite =
      ({} : Synthesizer).synthesize (.between visits timedVisits) timedVisits .sqlite := by
  have postgres : ({} : Synthesizer).synthesize (.between visits timedVisits) timedVisits .postgres
      = .error (.defaultCompile "visits" "end" (.unknownFunction "SOON")) := rfl
  have sqlite : ∃ migration, ({} : Synthesizer).synthesize (.between visits timedVisits) timedVisits
      .sqlite = .ok migration := ⟨_, rfl⟩
  obtain ⟨first, -, -⟩ := migration_fails_by_first_check {} visits timedVisits timedVisits .postgres
  obtain ⟨-, made, rests⟩ :=
    migration_fails_by_first_check {} visits timedVisits timedVisits .sqlite
  refine ⟨(first _).mp postgres, made.mp sqlite, (rests rfl).2 _ ?_⟩
  have new : (Diff.between visits timedVisits).newColumnChecks =
      [.default "begin" ⟨"visits", .call "NOW" []⟩] := rfl
  rw [new, List.forall_mem_singleton]
  rintro request ⟨⟩
  rfl

end SchemaDelta
