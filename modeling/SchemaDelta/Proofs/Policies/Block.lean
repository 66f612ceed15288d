import SchemaDelta.Migration.Planner
import SchemaDelta.Proofs.Plan

/-!
# Blocks of policies

The statements for a table whose rules changed: row security is enabled, the policies of all
operations are dropped, and those of the changed operations are created.
-/

namespace SchemaDelta

theorem Operation.mem_all (operation : Operation) : operation ∈ Operation.all := by
  cases operation <;> decide

theorem AccessChange.mem_changes {change : AccessChange} {operation : Operation}
    {rule : Change Condition} :
    (operation, rule) ∈ change.changes ↔ change.get operation = some rule := by
  simp [changes, Operation.mem_all]

/-- The change of an operation on a new table is recorded. -/
@[simp] theorem AccessChange.get_ofNewTable (table : Table) (operation : Operation) :
    (ofNewTable table).get operation = some ⟨.permissive, table.access.get operation⟩ := by
  cases operation <;> rfl

namespace Planner

variable {planner : Planner} {change : AccessChange} {block : List Statement}

/-- The SQL of the condition that guards an operation, where it has one. -/
def predicateText (planner : Planner) (table : String) (operation : Operation)
    (condition : Condition) : String :=
  (planner.predicate table operation condition).toOption.getD ""

theorem createPolicy_of_ok {table : String} {rule : Operation × Change Condition} {s : Statement}
    (made : planner.createPolicy table rule = .ok s) :
    Statement.createPolicy table rule.1 (planner.predicateText table rule.1 rule.2.after) = s := by
  unfold createPolicy at made
  cases text : planner.predicate table rule.1 rule.2.after with
  | error e =>
    rw [text] at made
    cases made
  | ok sql =>
    rw [text] at made
    cases made
    simp [predicateText, text, Except.toOption]

/-- The statements for the changed rules of a table. -/
def policyStatements (planner : Planner) (change : AccessChange) : List Statement :=
  .enableRowSecurity change.table :: Operation.all.map (.dropPolicy change.table) ++
    change.changes.map fun rule => .createPolicy change.table rule.1
      (planner.predicateText change.table rule.1 rule.2.after)

theorem policyBlock_of_ok (supported : planner.dialect.supportsPolicies = true)
    (made : planner.policyBlock change = .ok block) : block = planner.policyStatements change := by
  unfold policyBlock at made
  rw [if_pos supported] at made
  cases created : change.changes.mapM (planner.createPolicy change.table) with
  | error e =>
    rw [created] at made
    cases made
  | ok policies =>
    rw [created] at made
    cases made
    have each := (mapM_eq_ok_iff.mp created).imp fun _ _ => createPolicy_of_ok
    have same := List.forall₂_map_left_iff.mpr each
    rw [List.forall₂_eq_eq_eq] at same
    rw [policyStatements, same]

theorem policyBlock_of_not_supported (unsupported : planner.dialect.supportsPolicies = false) :
    planner.policyBlock change = .ok [] := by
  simp [policyBlock, unsupported]

/-- The blocks of several tables, one after the other. -/
theorem flatten_policyBlocks {changes : List AccessChange} {blocks : List (List Statement)}
    (supported : planner.dialect.supportsPolicies = true)
    (made : changes.mapM planner.policyBlock = .ok blocks) :
    blocks.flatten = changes.flatMap planner.policyStatements := by
  have each := (mapM_eq_ok_iff.mp made).imp fun _ _ made =>
    (policyBlock_of_ok supported made).symm
  have same := List.forall₂_map_left_iff.mpr each
  rw [List.forall₂_eq_eq_eq] at same
  rw [← same, List.flatMap_def]

/-- The policies can be planned if all blocks can. -/
theorem complete_policies_of_blocks {changes : List AccessChange} {blocks : List (List Statement)}
    (made : changes.mapM planner.policyBlock = .ok blocks) :
    (planner.policies changes).Complete := by
  refine Plan.complete_append.mpr
    ⟨Plan.complete_sequence_map.mpr ?_, Plan.complete_sequence_map.mpr ?_⟩
  all_goals
    intro change member
    obtain ⟨block, made⟩ := exists_of_mapM made member
    refine Plan.complete_ofResult.mpr ⟨block, made, ?_⟩
  · unfold notePolicies
    split <;> rfl
  · rfl

/-- All policies come after the notes on them, table by table. -/
theorem statements_policies {changes : List AccessChange}
    (supported : planner.dialect.supportsPolicies = true)
    (complete : (planner.policies changes).Complete) :
    (planner.policies changes).statements = changes.flatMap planner.policyStatements := by
  obtain ⟨notes, blocks⟩ := Plan.complete_append.mp complete
  rw [policies, Plan.statements_append notes]
  rw [Plan.complete_sequence_map] at notes blocks
  rw [Plan.statements_sequence_map notes, Plan.statements_sequence_map blocks]
  have silent : ∀ change ∈ changes,
      (Plan.ofResult (planner.policyBlock change) (notePolicies change.table)).statements = [] := by
    intro change member
    obtain ⟨block, made, -⟩ := Plan.complete_ofResult.mp (notes change member)
    rw [made, Plan.ofResult_ok]
    unfold notePolicies
    split <;> rfl
  rw [List.flatMap_eq_nil_iff.mpr silent, List.nil_append]
  refine List.flatMap_congr fun change member => ?_
  obtain ⟨block, made, -⟩ := Plan.complete_ofResult.mp (blocks change member)
  rw [made, Plan.ofResult_ok, Plan.statements_execute, policyBlock_of_ok supported made]

end Planner

end SchemaDelta
