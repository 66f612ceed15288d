import SchemaDelta.Proofs.Bootstrap
import SchemaDelta.Proofs.Expressions.Sources

/-!
# How long a policy stays

A policy is removed when it is dropped, when its table is, and when a table that its predicate reads
is dropped together with what depends on it. No other statement removes it. A migration drops the
policies of the tables with changed rules, and the tables that the new snapshot lacks.
-/

namespace SchemaDelta

/-- The policy for an operation on a table. -/
def DatabaseAccess.policy? (access : DatabaseAccess) (table : String) (operation : Operation) :
    Option Policy :=
  (access table).bind (·.policies (Sql.policyName table operation))

/-- The statement removes the policy for an operation on a table, the predicate of which reads the
given tables. -/
def Statement.RemovesPolicy (table : String) (operation : Operation) (reads : String → Prop) :
    Statement → Prop
  | dropTable table' cascade => table' = table ∨ cascade = true ∧ reads table'
  | dropPolicy table' operation' => table' = table ∧ operation' = operation
  | _ => False

/-- What a statement does to a policy of the table that it alters. -/
theorem TableAccess.alter_policy_iff {access final : TableAccess} {s : Statement} {table : String}
    {operation : Operation} {policy : Policy} {reads : String → Prop}
    (on : s.alteredTable? = some table) (altered : access.alter s = some final)
    (uncreated : ∀ predicate, s ≠ .createPolicy table operation predicate) :
    final.policies (Sql.policyName table operation) = some policy ↔
      access.policies (Sql.policyName table operation) = some policy ∧
        ¬ s.RemovesPolicy table operation reads := by
  cases s with
  | dropPolicy table' dropped =>
    obtain rfl : table' = table := Option.some.inj on
    cases altered
    by_cases same : dropped = operation
    · simp [same, Statement.RemovesPolicy]
    · have apart := (Sql.policyName_injective table').ne (Ne.symm same)
      simp [same, apart, Statement.RemovesPolicy]
  | createPolicy table' created predicate =>
    obtain rfl : table' = table := Option.some.inj on
    simp only [alter, Option.ite_none_right_eq_some, Option.some.injEq] at altered
    obtain ⟨-, rfl⟩ := altered
    have other : operation ≠ created := fun same => uncreated predicate (same ▸ rfl)
    have apart := (Sql.policyName_injective table').ne other
    simp [apart, Statement.RemovesPolicy]
  | enableRowSecurity table' =>
    cases altered
    simp [Statement.RemovesPolicy]
  | createTable | dropTable => cases on
  | _ =>
    cases altered
    simp [Statement.RemovesPolicy]

namespace Snapshot

/-- What the predicate of the policy for an operation on a table reads. -/
def policySources (snapshot : Snapshot) (config : Config) (mentions : Mentions) (table : Table)
    (operation : Operation) : List Source :=
  Scope.conditionSources ⟨.postgres, table.name, snapshot, config.bindings⟩ mentions
    (table.access.get operation)

/-- The predicate of the policy reads a table, or a column of it. -/
def PolicyReads (snapshot : Snapshot) (config : Config) (mentions : Mentions) (table : Table)
    (operation : Operation) (other : String) : Prop :=
  ∃ source ∈ snapshot.policySources config mentions table operation, source.owner = other

instance (snapshot : Snapshot) (config : Config) (mentions : Mentions) (table : Table)
    (operation : Operation) (other : String) :
    Decidable (snapshot.PolicyReads config mentions table operation other) :=
  List.decidableBEx _ (snapshot.policySources config mentions table operation)

/-- The new snapshot lacks a table that the old one has. -/
def Loses (before after : Snapshot) (table : String) : Prop :=
  (before.table? table).isSome ∧ after.table? table = none

instance (before after : Snapshot) (table : String) : Decidable (before.Loses after table) :=
  decidable_of_iff ((before.table? table).isSome ∧ (after.table? table).isNone)
    (and_congr_right' Option.isNone_iff_eq_none)

end Snapshot

namespace DatabaseAccess

variable {depends : String → Policy → Bool} {access next : DatabaseAccess} {s : Statement}
  {table : String} {operation : Operation} {policy : Policy}

theorem policy?_without {lost : String} {cascade : Bool} :
    (access.without depends lost cascade).policy? table operation = some policy ↔
      access.policy? table operation = some policy ∧
        ¬ (lost = table ∨ cascade = true ∧ depends lost policy = true) := by
  by_cases same : table = lost
  · simp [policy?, DatabaseAccess.without, same]
  · cases cascade with
    | false => simp [policy?, DatabaseAccess.without, same, Ne.symm same]
    | true =>
      cases found : access table <;>
        simp [policy?, DatabaseAccess.without, same, Ne.symm same, found, TableAccess.release,
          Option.filter_eq_some_iff]

/-- What a statement does to a policy that it does not create. -/
theorem execute_policy?_iff (executed : access.execute depends s = some next)
    (uncreated : ∀ predicate, s ≠ .createPolicy table operation predicate) :
    next.policy? table operation = some policy ↔
      access.policy? table operation = some policy ∧
        ¬ s.RemovesPolicy table operation fun lost => depends lost policy = true := by
  cases on : s.alteredTable? with
  | some table' =>
    obtain ⟨found, final, held, altered, rfl⟩ := execute_of_alteredTable? on executed
    by_cases same : table' = table
    · subst same
      rw [policy?, policy?, Function.update_self, Option.bind_some, held, Option.bind_some]
      exact TableAccess.alter_policy_iff on altered uncreated
    · have removes : ¬ s.RemovesPolicy table operation fun lost => depends lost policy = true := by
        cases s <;> simp_all [Statement.alteredTable?, Statement.RemovesPolicy]
      rw [policy?, policy?, Function.update_of_ne (Ne.symm same), and_iff_left removes]
  | none =>
    cases s with
    | createTable table' columns =>
      simp only [execute, Option.ite_none_right_eq_some, Option.some.injEq] at executed
      obtain ⟨free, rfl⟩ := executed
      by_cases same : table = table'
      · -- neither before nor after are there any policies
        subst same
        simp [policy?, Option.isNone_iff_eq_none.mp free, TableAccess.fresh]
      · simp [policy?, same, Statement.RemovesPolicy]
    | dropTable lost cascade =>
      simp only [execute, Option.ite_none_right_eq_some, Option.some.injEq] at executed
      obtain ⟨-, rfl⟩ := executed
      exact policy?_without
    | _ => cases on

/-- What a script does to a policy that it does not create. -/
theorem run_policy?_iff {final : DatabaseAccess} {script : List Statement}
    (ran : access.run depends script = some final)
    (uncreated : ∀ predicate, .createPolicy table operation predicate ∉ script) :
    final.policy? table operation = some policy ↔
      access.policy? table operation = some policy ∧
        ¬ ∃ s ∈ script,
          s.RemovesPolicy table operation fun lost => depends lost policy = true := by
  have step : ∀ s ∈ script, ∀ access next, execute depends access s = some next →
      (next.policy? table operation = some policy ↔
        access.policy? table operation = some policy ∧
          ¬ s.RemovesPolicy table operation fun lost => depends lost policy = true) := by
    intro s member access next executed
    exact execute_policy?_iff executed fun predicate same => uncreated predicate (same ▸ member)
  rw [foldlM_iff (fun access => access.policy? table operation = some policy) _ step ran]
  push Not
  rfl

/-- After a script a policy has a predicate exactly if it had this one before, which reads the given
tables, and the script does not remove it. -/
theorem run_policy?_eq_iff {final : DatabaseAccess} {script : List Statement}
    {reads : String → Prop} {p q : String} (ran : access.run depends script = some final)
    (uncreated : ∀ predicate, .createPolicy table operation predicate ∉ script)
    (held : access.policy? table operation = some ⟨operation, p⟩)
    (agrees : ∀ lost, depends lost ⟨operation, p⟩ = true ↔ reads lost) :
    final.policy? table operation = some ⟨operation, q⟩ ↔
      p = q ∧ ¬ ∃ s ∈ script, s.RemovesPolicy table operation reads := by
  rw [run_policy?_iff ran uncreated, held, Option.some.injEq, Policy.mk.injEq, and_iff_right rfl]
  refine and_congr_right fun same => ?_
  rw [← same, funext fun lost => propext (agrees lost)]

end DatabaseAccess

namespace Planner

variable {planner : Planner} {s : Statement} {table predicate : String} {operation : Operation}

theorem dropPolicy_mem_policyStatements {change : AccessChange} :
    .dropPolicy table operation ∈ planner.policyStatements change ↔ change.table = table := by
  simp [policyStatements, Operation.mem_all]

theorem createPolicy_mem_policyStatements {change : AccessChange} :
    .createPolicy table operation predicate ∈ planner.policyStatements change ↔
      change.table = table ∧ ∃ rule, change.get operation = some rule ∧
        planner.predicateText table operation rule.after = predicate := by
  simp only [policyStatements, List.cons_append, List.mem_cons, List.mem_append, List.mem_map,
    Prod.exists, AccessChange.mem_changes, reduceCtorEq, and_false, exists_false, false_or,
    Statement.createPolicy.injEq]
  constructor
  · rintro ⟨operation', rule, recorded, rfl, rfl, text⟩
    exact ⟨rfl, rule, recorded, text⟩
  · rintro ⟨rfl, rule, recorded, text⟩
    exact ⟨operation, rule, recorded, rfl, rfl, text⟩

section CarryOut

variable {diff : Diff} (supported : planner.dialect.supportsPolicies = true)
  (complete : (planner.carryOut diff).Complete)

include supported complete

/-- The statements about policies are those for the tables with changed rules. -/
theorem mem_carryOut_iff_of_securesRows (secures : s.securesRows = true) :
    s ∈ (planner.carryOut diff).statements ↔
      ∃ change ∈ diff.access, s ∈ planner.policyStatements change := by
  obtain ⟨untilModified, policies⟩ := Plan.complete_append.mp complete
  have unrelated : (Plan.sequence (diff.removed.map planner.dropTable) ++
      planner.createTables diff.added ++
      .sequence (diff.modified.map planner.modifyTable)).All fun s => s.securesRows = false := by
    refine Plan.all_append (Plan.all_append (Plan.all_sequence ?removed) ?created)
      (Plan.all_sequence ?modified)
    case removed =>
      exact List.forall_mem_map.mpr fun table _ =>
        Plan.all_execute.mpr (List.forall_mem_singleton.mpr rfl)
    case created => exact all_createTables_of (fun _ _ _ _ => rfl) fun _ _ _ => rfl
    case modified =>
      refine List.forall_mem_map.mpr fun m _ s member => ?_
      obtain ⟨-, columns⟩ := all_modifyTable m s member
      cases s <;> first | rfl | cases columns
  rw [carryOut, Plan.statements_append untilModified, statements_policies supported policies,
    List.mem_append, List.mem_flatMap]
  refine or_iff_right fun member => ?_
  rw [unrelated s member] at secures
  cases secures

theorem dropPolicy_mem_carryOut :
    .dropPolicy table operation ∈ (planner.carryOut diff).statements ↔
      ∃ change ∈ diff.access, change.table = table := by
  rw [mem_carryOut_iff_of_securesRows supported complete rfl]
  simp only [dropPolicy_mem_policyStatements]

theorem createPolicy_mem_carryOut :
    .createPolicy table operation predicate ∈ (planner.carryOut diff).statements ↔
      ∃ change ∈ diff.access, change.table = table ∧ ∃ rule, change.get operation = some rule ∧
        planner.predicateText table operation rule.after = predicate := by
  rw [mem_carryOut_iff_of_securesRows supported complete rfl]
  simp only [createPolicy_mem_policyStatements]

end CarryOut

/-- A part of a migration that drops the lost tables, and does not drop a policy or its table,
removes the policy together with a lost table that it reads, if at all. -/
theorem removes_iff {before after : Snapshot} {part : List Statement} {reads : String → Prop}
    (postgres : planner.dialect = .postgres)
    (occasions : ∀ s ∈ part, planner.Occasion before after s)
    (drops : ∀ lost, before.Loses after lost →
      .dropTable lost (planner.dialect.dropsCascade planner.config.dropCascade) ∈ part)
    (stays : ¬ before.Loses after table) (notDropped : .dropPolicy table operation ∉ part) :
    (∃ s ∈ part, s.RemovesPolicy table operation reads) ↔
      planner.config.dropCascade = true ∧ ∃ lost, reads lost ∧ before.Loses after lost := by
  have asked : planner.dialect.dropsCascade planner.config.dropCascade =
      planner.config.dropCascade := by
    rw [postgres]
    exact Bool.and_true _
  rw [asked] at drops
  constructor
  · rintro ⟨s, member, removes⟩
    have occasion := occasions s member
    cases s with
    | dropTable lost cascade =>
      obtain ⟨declared, gone, flag⟩ := occasion
      rw [asked] at flag
      rcases removes with rfl | ⟨cascades, reading⟩
      · exact absurd ⟨declared, gone⟩ stays
      · exact ⟨flag ▸ cascades, lost, reading, declared, gone⟩
    | dropPolicy table' operation' =>
      obtain ⟨rfl, rfl⟩ := removes
      exact absurd member notDropped
    | _ => exact removes.elim
  · rintro ⟨cascades, lost, reading, gone⟩
    exact ⟨_, drops lost gone, .inr ⟨cascades, reading⟩⟩

/-- Bootstrapping creates one policy for each operation on a table. -/
theorem createPolicy_mem_bootstrap (supported : planner.dialect.supportsPolicies = true)
    (complete : planner.bootstrap.Complete) :
    .createPolicy table operation predicate ∈ planner.bootstrap.statements ↔
      ∃ declared ∈ planner.target.tables, declared.name = table ∧
        planner.predicateText table operation (declared.access.get operation) = predicate := by
  rw [bootstrap_eq_carryOut] at complete ⊢
  rw [createPolicy_mem_carryOut supported complete, Diff.between_empty]
  simp only [List.mem_map, exists_exists_and_eq_and, AccessChange.get_ofNewTable,
    Option.some.injEq, exists_eq_left']
  rfl

end Planner

end SchemaDelta
