import SchemaDelta.Proofs.Diff
import SchemaDelta.Proofs.Policies.State

/-!
# What a block of policies leaves

A block of policies enables row security. Of the policies for the operations on a table it leaves
those that are recorded, under their new conditions, and no others. It does not touch policies by
other names, and it can be executed again.
-/

namespace SchemaDelta

theorem Sql.policyName_injective (table : String) : Function.Injective (Sql.policyName table) := by
  intro x y same
  have letters := congrArg String.toList same
  cases x <;> cases y <;> first | rfl | simp [Sql.policyName, Operation.name] at letters

namespace AccessChange

variable {change : AccessChange} {operation : Operation} {rule : Change Condition}

/-- The changed operations stand in the order of all operations. -/
theorem changes_sublist (change : AccessChange) :
    (change.changes.map Prod.fst).Sublist Operation.all := by
  have sublist : (change.changes.map Prod.fst).Sublist (Operation.all.map id) := by
    unfold changes
    refine filterMap_names_sublist (fun operation rule made => ?_) Operation.all
    obtain ⟨_, -, rfl⟩ := Option.map_eq_some_iff.mp made
    rfl
  exact sublist

theorem changes_distinct (change : AccessChange) : (change.changes.map Prod.fst).Nodup :=
  List.Nodup.sublist change.changes_sublist (by decide)

end AccessChange

namespace Planner

variable {planner : Planner} {change : AccessChange}

/-- The policies for the recorded operations of a table. -/
def recordedPolicies (planner : Planner) (change : AccessChange) : String → Option Policy :=
  fun name =>
    (change.changes.find? fun rule => Sql.policyName change.table rule.1 == name).map fun rule =>
      ⟨rule.1, planner.predicateText change.table rule.1 rule.2.after⟩

theorem recordedPolicies_of_get (planner : Planner) {operation : Operation}
    {rule : Change Condition}
    (recorded : change.get operation = some rule) :
    planner.recordedPolicies change (Sql.policyName change.table operation) =
      some ⟨operation, planner.predicateText change.table operation rule.after⟩ := by
  have distinct :
      (change.changes.map fun rule => Sql.policyName change.table rule.1).Nodup := by
    have named := change.changes_distinct.map (Sql.policyName_injective change.table)
    rwa [List.map_map] at named
  have found := (find?_name_eq_some_iff distinct).mpr
    ⟨AccessChange.mem_changes.mpr recorded, rfl⟩
  rw [recordedPolicies, found, Option.map_some]

theorem recordedPolicies_of_forall_ne {name : String}
    (other : ∀ operation, (change.get operation).isSome →
      name ≠ Sql.policyName change.table operation) :
    planner.recordedPolicies change name = none := by
  rw [recordedPolicies, Option.map_eq_none_iff, List.find?_eq_none]
  intro rule member
  have recorded := AccessChange.mem_changes.mp member
  simpa using (other rule.1 (by simp [recorded])).symm

/-- Creating policies under free names adds them. -/
theorem run_createPolicies (planner : Planner) (access : TableAccess)
    {goal : String → Option Policy} {table : String}
    {rules : List (Operation × Change Condition)} (distinct : (rules.map Prod.fst).Nodup)
    (free : ∀ rule ∈ rules, access.policies (Sql.policyName table rule.1) = none)
    (intended : ∀ rule ∈ rules, goal (Sql.policyName table rule.1) =
      some ⟨rule.1, planner.predicateText table rule.1 rule.2.after⟩) :
    (rules.map fun rule => Statement.createPolicy table rule.1
        (planner.predicateText table rule.1 rule.2.after)).foldlM TableAccess.alter access =
      some { access with
        policies := overlay (rules.map fun rule => Sql.policyName table rule.1) goal
          access.policies } := by
  induction rules generalizing access with
  | nil => rfl
  | cons rule rules ih =>
    obtain ⟨different, distinct⟩ := List.nodup_cons.mp distinct
    obtain ⟨head, others⟩ := List.forall_mem_cons.mp free
    obtain ⟨first, rest⟩ := List.forall_mem_cons.mp intended
    rw [List.map_cons, List.foldlM_cons, TableAccess.alter, head, Option.isNone_none,
      if_pos rfl, Option.bind_eq_bind, Option.bind_some, ih _ distinct ?_ rest, List.map_cons,
      overlay_cons, first]
    intro other member
    have apart : Sql.policyName table other.1 ≠ Sql.policyName table rule.1 := fun same =>
      different (Sql.policyName_injective table same ▸ List.mem_map_of_mem member)
    simp only [Function.update_of_ne apart]
    exact others other member

theorem alteredTable_of_mem_policyStatements {s : Statement}
    (member : s ∈ planner.policyStatements change) : s.alteredTable? = some change.table := by
  simp only [policyStatements, List.cons_append, List.mem_cons, List.mem_append,
    List.mem_map] at member
  rcases member with rfl | ⟨operation, -, rfl⟩ | ⟨rule, -, rfl⟩ <;> rfl

/-- Dropping the policies of operations leaves those under other names. -/
theorem run_dropPolicies (access : TableAccess) (table : String) (operations : List Operation) :
    (operations.map (Statement.dropPolicy table)).foldlM TableAccess.alter access =
      some { access with
        policies := overlay (operations.map (Sql.policyName table)) (fun _ => none)
          access.policies } := by
  induction operations generalizing access with
  | nil => rfl
  | cons operation operations ih =>
    rw [List.map_cons, List.foldlM_cons, TableAccess.alter, Option.bind_eq_bind, Option.bind_some,
      ih, List.map_cons, overlay_cons]

/-- A table after a block of policies: its rows are secured, and its operations have the recorded
policies and no others. Policies by other names are as before. -/
def replay (planner : Planner) (change : AccessChange) (former : TableAccess) : TableAccess where
  rowSecurity := true
  policies := overlay (Operation.all.map (Sql.policyName change.table))
    (planner.recordedPolicies change) former.policies

theorem run_policyStatements (access : TableAccess) :
    (planner.policyStatements change).foldlM TableAccess.alter access =
      some (planner.replay change access) := by
  let operations := Operation.all.map (Sql.policyName change.table)
  let changed := change.changes.map fun rule => Sql.policyName change.table rule.1
  have among : ∀ name ∈ changed, name ∈ operations := by
    intro name member
    obtain ⟨rule, -, rfl⟩ := List.mem_map.mp member
    exact List.mem_map_of_mem (Operation.mem_all rule.1)
  have free : ∀ rule ∈ change.changes,
      overlay operations (fun _ => none) access.policies (Sql.policyName change.table rule.1) =
        none :=
    fun rule member => overlay_of_mem (among _ (List.mem_map_of_mem member))
  have created := run_createPolicies planner
    ⟨true, overlay operations (fun _ => none) access.policies⟩ change.changes_distinct free
    fun rule member => recordedPolicies_of_get planner (AccessChange.mem_changes.mp member)
  -- what was dropped and is not recorded stays away
  have only : overlay changed (planner.recordedPolicies change)
      (overlay operations (fun _ => none) access.policies) =
        overlay operations (planner.recordedPolicies change) access.policies := by
    funext name
    by_cases member : name ∈ changed
    · rw [overlay_of_mem member, overlay_of_mem (among name member)]
    rw [overlay_of_not_mem member]
    by_cases dropped : name ∈ operations
    · rw [overlay_of_mem dropped, overlay_of_mem dropped, recordedPolicies_of_forall_ne]
      rintro operation recorded rfl
      obtain ⟨rule, recorded⟩ := Option.isSome_iff_exists.mp recorded
      exact member
        (List.mem_map.mpr ⟨(operation, rule), AccessChange.mem_changes.mpr recorded, rfl⟩)
    · rw [overlay_of_not_mem dropped, overlay_of_not_mem dropped]
  rw [policyStatements, List.cons_append, List.foldlM_cons, TableAccess.alter, Option.bind_eq_bind,
    Option.bind_some, List.foldlM_append, run_dropPolicies, Option.bind_eq_bind, Option.bind_some,
    created, only]
  rfl

/-- Where all policies have names of operations, a block leaves the recorded ones and no others. -/
theorem replay_of_namedFor {access : TableAccess} (named : access.NamedFor change.table) :
    planner.replay change access = ⟨true, planner.recordedPolicies change⟩ := by
  refine congrArg (TableAccess.mk true) (funext fun name => ?_)
  by_cases operation : name ∈ Operation.all.map (Sql.policyName change.table)
  · exact overlay_of_mem operation
  have other : ∀ operation, name ≠ Sql.policyName change.table operation := by
    rintro operation' rfl
    exact operation (List.mem_map_of_mem operation'.mem_all)
  rw [overlay_of_not_mem operation, recordedPolicies_of_forall_ne fun operation _ =>
    other operation]
  by_contra held
  obtain ⟨operation, same⟩ := named name (Option.isSome_iff_ne_none.mpr held)
  exact other operation same

/-- A block that is replayed changes nothing. -/
theorem replay_replay (planner : Planner) (change : AccessChange) (access : TableAccess) :
    planner.replay change (planner.replay change access) = planner.replay change access := by
  rw [replay, replay, overlay_overlay]

end Planner

end SchemaDelta
