import SchemaDelta.Proofs.Plan
import SchemaDelta.Proofs.Rendering

/-!
# What a migration compiles

Carrying out a diff hands expressions to the compiler: computed defaults and conditions, each on a
table. They are compiled in order, and the first that has no SQL is the last one that is compiled.
A planner takes nothing else from its compiler, its variables and its target, apart from the
declarations of the modified tables: two planners that agree on what the first one compiles make the
same plan.
-/

namespace SchemaDelta

/-- An expression that is to be compiled on a table. -/
structure Request where
  table : String
  expr : Expr

/-! ## Requests -/

/-- A computed default is compiled with the function names at its root in upper case. -/
def DefaultValue.requests (table : String) : DefaultValue → List Request
  | constant _ => []
  | computed e => [⟨table, e.uppercaseCalls⟩]

/-- A condition that is an expression is compiled as it stands. -/
def Condition.requests (table : String) : Condition → List Request
  | always _ => []
  | expr e => [⟨table, e⟩]

/-- What a field wants to have compiled: its default. -/
def Field.requests (table : String) (field : Field) : List Request :=
  match field.default with
  | none => []
  | some value => value.requests table

/-- What a new table wants to have compiled, field by field. -/
def Table.requests (table : Table) : List Request := table.fields.flatMap (·.requests table.name)

/-- An embedded database never changes the default of a column. -/
def FieldModification.requests (dialect : Dialect) (table : String) (m : FieldModification) :
    List Request :=
  if dialect.isEmbedded then []
  else
    match m.default with
    | some ⟨_, some value⟩ => value.requests table
    | _ => []

/-- What a modified table wants to have compiled: its new fields, and then its new defaults. -/
def TableModification.requests (dialect : Dialect) (m : TableModification) : List Request :=
  m.fieldsAdded.flatMap (·.requests m.table) ++
    m.fieldsModified.flatMap (·.requests dialect m.table)

/-- The new conditions of a table are compiled where there are policies. -/
def AccessChange.requests (dialect : Dialect) (change : AccessChange) : List Request :=
  if dialect.supportsPolicies then
    change.changes.flatMap fun rule => rule.2.after.requests change.table
  else []

/-- What a diff wants to have compiled, in order. -/
def Diff.requests (dialect : Dialect) (diff : Diff) : List Request :=
  diff.added.flatMap Table.requests ++ diff.modified.flatMap (·.requests dialect) ++
    diff.access.flatMap (·.requests dialect)

namespace Planner

/-- What the compiler makes of a request. -/
def compile (planner : Planner) (request : Request) : Except CompileError String :=
  planner.compiler (planner.scope request.table) request.expr

/-- The requests that are compiled: all up to the first that has no SQL. -/
def compiled (planner : Planner) : List Request → List Request
  | [] => []
  | request :: requests =>
    match planner.compile request with
    | .ok _ => request :: planner.compiled requests
    | .error _ => [request]

/-- All requests have SQL. -/
def Ready (planner : Planner) (requests : List Request) : Prop :=
  ∀ request ∈ requests, ∃ sql, planner.compile request = .ok sql

/-- The planners make the same of all that the first one compiles. -/
def Agrees (planner planner' : Planner) (requests : List Request) : Prop :=
  ∀ request ∈ planner.compiled requests, planner.compile request = planner'.compile request

/-- The planners work for the same dialect, and drop tables alike. -/
structure Alike (planner planner' : Planner) : Prop where
  dialect : planner.dialect = planner'.dialect
  dropCascade : planner.config.dropCascade = planner'.config.dropCascade

variable {p p' : Planner} {requests requests' : List Request}

theorem compiled_subset : p.compiled requests ⊆ requests := by
  induction requests with
  | nil => exact List.Subset.refl _
  | cons request requests ih =>
    rw [compiled]
    split
    · exact List.cons_subset_cons request ih
    · exact List.cons_subset_cons request (List.nil_subset _)

theorem compiled_append_of_ready (ready : p.Ready requests) :
    p.compiled (requests ++ requests') = requests ++ p.compiled requests' := by
  induction requests with
  | nil => rfl
  | cons request requests ih =>
    obtain ⟨⟨sql, compiles⟩, others⟩ := List.forall_mem_cons.mp ready
    rw [List.cons_append, compiled, compiles, List.cons_append]
    exact congrArg _ (ih others)

theorem compiled_subset_append : p.compiled requests ⊆ p.compiled (requests ++ requests') := by
  induction requests with
  | nil => exact List.nil_subset _
  | cons request requests ih =>
    rw [List.cons_append, compiled, compiled]
    split
    · exact List.cons_subset_cons request ih
    · exact List.Subset.refl _

theorem agrees_of_forall
    (agree : ∀ request ∈ requests, p.compile request = p'.compile request) :
    p.Agrees p' requests :=
  fun request member => agree request (compiled_subset member)

theorem Agrees.left (agree : p.Agrees p' (requests ++ requests')) : p.Agrees p' requests :=
  fun request member => agree request (compiled_subset_append member)

theorem Agrees.right (agree : p.Agrees p' (requests ++ requests')) (ready : p.Ready requests) :
    p.Agrees p' requests' := by
  intro request member
  refine agree request ?_
  rw [compiled_append_of_ready ready]
  exact List.mem_append_right _ member

theorem ready_append :
    p.Ready (requests ++ requests') ↔ p.Ready requests ∧ p.Ready requests' :=
  List.forall_mem_append

/-! ## Results -/

/-- A result of the first planner that rests on the requests: the second planner has the same if
they agree, and there is a result only if all of them have SQL. -/
structure ResultRests {ε α : Type} (p p' : Planner) (requests : List Request)
    (result result' : Except ε α) : Prop where
  same : p.Agrees p' requests → result = result'
  ready : ∀ value, result = .ok value → p.Ready requests

section Results

variable {ε α β : Type} {result result' : Except ε α} {next next' : α → Except ε β}

theorem resultRests_refl (result : Except ε α) : ResultRests p p' [] result result :=
  ⟨fun _ => rfl, fun _ _ => List.forall_mem_nil _⟩

theorem ResultRests.bind (first : ResultRests p p' requests result result')
    (second : ∀ value, ResultRests p p' requests' (next value) (next' value)) :
    ResultRests p p' (requests ++ requests') (result >>= next) (result' >>= next') where
  same agree := by
    rw [← first.same agree.left]
    cases made : result with
    | error e => rfl
    | ok value => exact (second value).same (agree.right (first.ready value made))
  ready value made := by
    obtain ⟨first', made, made'⟩ := bind_eq_ok_iff.mp made
    exact ready_append.mpr ⟨first.ready first' made, (second first').ready value made'⟩

/-- What is made of a result rests on the same requests. -/
theorem ResultRests.map (rests : ResultRests p p' requests result result') (f : α → β) :
    ResultRests p p' requests (result >>= fun value => .ok (f value))
      (result' >>= fun value => .ok (f value)) := by
  have mapped := rests.bind fun value => resultRests_refl (.ok (f value))
  rwa [List.append_nil] at mapped

theorem resultRests_mapM {items : List α} {each each' : α → Except ε β} {wanted : α → List Request}
    (rests : ∀ item ∈ items, ResultRests p p' (wanted item) (each item) (each' item)) :
    ResultRests p p' (items.flatMap wanted) (items.mapM each) (items.mapM each') := by
  induction items with
  | nil => exact resultRests_refl _
  | cons item items ih =>
    obtain ⟨head, tail⟩ := List.forall_mem_cons.mp rests
    rw [List.mapM_cons, List.mapM_cons, List.flatMap_cons]
    exact head.bind fun value => (ih tail).map (value :: ·)

/-- What is made of the SQL of one request, or of the error, rests on that request. -/
theorem resultRests_single (request : Request) (ofSql : String → α) (ofError : CompileError → ε) :
    ResultRests p p' [request]
      (match p.compile request with
        | .ok sql => .ok (ofSql sql)
        | .error cause => .error (ofError cause))
      (match p'.compile request with
        | .ok sql => .ok (ofSql sql)
        | .error cause => .error (ofError cause)) where
  same agree := by
    have first : request ∈ p.compiled [request] := by
      rw [compiled]
      split <;> exact List.mem_singleton.mpr rfl
    rw [agree request first]
  ready value made := by
    rw [Ready, List.forall_mem_singleton]
    cases compiles : p.compile request with
    | ok sql => exact ⟨sql, rfl⟩
    | error cause =>
      rw [compiles] at made
      cases made

end Results

/-! ## Plans -/

/-- A plan of the first planner that rests on the requests: the second planner makes the same if
they agree, and the plan is complete only if all of them have SQL. -/
structure PlanRests (p p' : Planner) (requests : List Request) (plan plan' : Plan) : Prop where
  same : p.Agrees p' requests → plan = plan'
  ready : plan.Complete → p.Ready requests

section Plans

variable {plan plan' next next' : Plan}

theorem planRests_of_eq (same : plan = plan') : PlanRests p p' [] plan plan' :=
  ⟨fun _ => same, fun _ => List.forall_mem_nil _⟩

theorem PlanRests.append (first : PlanRests p p' requests plan plan')
    (second : PlanRests p p' requests' next next') :
    PlanRests p p' (requests ++ requests') (plan ++ next) (plan' ++ next') where
  same agree := by
    rw [← first.same agree.left]
    by_cases complete : plan.Complete
    · rw [second.same (agree.right (first.ready complete))]
    · rw [Plan.append_of_not_complete complete, Plan.append_of_not_complete complete]
  ready complete := by
    obtain ⟨complete, complete'⟩ := Plan.complete_append.mp complete
    exact ready_append.mpr ⟨first.ready complete, second.ready complete'⟩

/-- Steps after a plan that rest on nothing. -/
theorem PlanRests.append_same (first : PlanRests p p' requests plan plan') (same : next = next') :
    PlanRests p p' requests (plan ++ next) (plan' ++ next') := by
  have both := first.append (planRests_of_eq same)
  rwa [List.append_nil] at both

/-- Steps before a plan that rest on nothing. -/
theorem PlanRests.append_right (second : PlanRests p p' requests next next')
    (same : plan = plan') : PlanRests p p' requests (plan ++ next) (plan' ++ next') :=
  (planRests_of_eq same).append second

/-- Two plans in a row that rest on the same requests. -/
theorem PlanRests.append_again (first : PlanRests p p' requests plan plan')
    (second : PlanRests p p' requests next next') :
    PlanRests p p' requests (plan ++ next) (plan' ++ next') where
  same agree := by rw [first.same agree, second.same agree]
  ready complete := first.ready (Plan.complete_append.mp complete).1

theorem planRests_sequence {α : Type} {items : List α} {each each' : α → Plan}
    {wanted : α → List Request}
    (rests : ∀ item ∈ items, PlanRests p p' (wanted item) (each item) (each' item)) :
    PlanRests p p' (items.flatMap wanted) (.sequence (items.map each))
      (.sequence (items.map each')) := by
  induction items with
  | nil => exact planRests_of_eq rfl
  | cons item items ih =>
    obtain ⟨head, tail⟩ := List.forall_mem_cons.mp rests
    exact head.append (ih tail)

theorem planRests_ofResult {α : Type} {result result' : Except SchemaError α}
    {each each' : α → Plan} (rests : ResultRests p p' requests result result')
    (same : ∀ value, each value = each' value) :
    PlanRests p p' requests (.ofResult result each) (.ofResult result' each') where
  same agree := by rw [rests.same agree, funext same]
  ready complete := by
    obtain ⟨value, made, -⟩ := Plan.complete_ofResult.mp complete
    exact rests.ready value made

end Plans

/-! ## The parts of a plan -/

section Parts

variable (alike : p.Alike p')

include alike

theorem resultRests_defaultSql (table column : String) (value : DefaultValue) :
    ResultRests p p' (value.requests table) (p.defaultSql table column value)
      (p'.defaultSql table column value) := by
  cases value with
  | constant value =>
    simp only [defaultSql, ← alike.dialect]
    exact resultRests_refl _
  | computed e =>
    simp only [defaultSql, computedDefault, ← alike.dialect]
    exact resultRests_single ⟨table, e.uppercaseCalls⟩ p.dialect.expressionDefault
      (SchemaError.defaultCompile table column)

theorem resultRests_renderDefault (table column : String) (value : DefaultValue) :
    ResultRests p p' (value.requests table) (p.renderDefault table column value)
      (p'.renderDefault table column value) :=
  (resultRests_defaultSql alike table column value).map (RenderedDefault.mk value)

theorem resultRests_column (table : String) (field : Field) :
    ResultRests p p' (field.requests table) (p.column table field) (p'.column table field) := by
  have default : ResultRests p p' (field.requests table) (p.fieldDefault table field)
      (p'.fieldDefault table field) := by
    unfold fieldDefault Field.requests
    cases field.default with
    | none => exact resultRests_refl _
    | some value => exact (resultRests_renderDefault alike table field.name value).map some
  unfold column
  rw [← alike.dialect]
  exact default.map fun rendered => p.dialect.column field rendered

theorem dropTable_eq : p.dropTable = p'.dropTable := by
  funext table
  rw [dropTable, dropTable, alike.dialect, alike.dropCascade]

theorem addConstraint_eq : p.addConstraint = p'.addConstraint := by
  funext table column key
  unfold addConstraint
  rw [alike.dialect]

theorem dropConstraint_eq : p.dropConstraint = p'.dropConstraint := by
  funext table column key
  unfold dropConstraint
  rw [alike.dialect]

theorem removeField_eq : p.removeField = p'.removeField := by
  funext table field
  rw [removeField, removeField, dropConstraint_eq alike]

theorem rebuildColumn_eq : p.rebuildColumn = p'.rebuildColumn := by
  funext table m type
  have default : p.rebuiltDefault = p'.rebuiltDefault := by
    funext field
    unfold rebuiltDefault
    rw [alike.dialect]
  unfold rebuildColumn
  rw [alike.dialect, default]

theorem planRests_createTables (tables : List Table) :
    PlanRests p p' (tables.flatMap Table.requests) (p.createTables tables)
      (p'.createTables tables) := by
  refine (planRests_sequence fun table _ => ?_).append_same ?_
  · exact planRests_ofResult (resultRests_mapM fun field _ =>
      resultRests_column alike table.name field) fun _ => rfl
  · unfold addConstraints
    rw [addConstraint_eq alike]

theorem planRests_addField (table : String) (field : Field) :
    PlanRests p p' (field.requests table) (p.addField table field) (p'.addField table field) := by
  refine planRests_ofResult (resultRests_column alike table field) fun column => ?_
  rw [addConstraint_eq alike]

/-- Of the constraints of a column only the default is compiled, where it can be changed. -/
theorem planRests_alterConstraints (table : String) (m : FieldModification) :
    PlanRests p p' (m.requests p.dialect table) (p.alterConstraints table m)
      (p'.alterConstraints table m) := by
  have nullable : p.alterNullable = p'.alterNullable := by
    funext table column change
    unfold alterNullable
    rw [alike.dialect]
  have foreignKey : p.alterForeignKey = p'.alterForeignKey := by
    funext table column change
    unfold alterForeignKey
    rw [alike.dialect, addConstraint_eq alike, dropConstraint_eq alike]
  unfold alterConstraints
  rw [nullable, foreignKey]
  refine ((PlanRests.append_right ?_ rfl).append_same rfl)
  unfold FieldModification.requests
  rcases m.default with _ | ⟨before, after⟩
  · rw [ite_self]
    exact planRests_of_eq rfl
  · simp only [onChange, alterDefault, ← alike.dialect, Dialect.supportsAlterColumnConstraints]
    by_cases embedded : p.dialect.isEmbedded
    · simp only [embedded]
      exact planRests_of_eq rfl
    · simp only [embedded]
      cases after with
      | none => exact planRests_of_eq rfl
      | some value =>
        exact planRests_ofResult (resultRests_renderDefault alike table m.name value) fun _ => rfl

/-- Rebuilding a column compiles nothing. -/
theorem planRests_modifyField (table : Table) (m : FieldModification) :
    PlanRests p p' (m.requests p.dialect table.name) (p.modifyField table m)
      (p'.modifyField table m) := by
  have constraints := planRests_alterConstraints alike table.name m
  unfold modifyField
  refine PlanRests.append_same ?_ rfl
  cases m.type with
  | none => exact constraints
  | some change =>
    simp only [← alike.dialect, ← rebuildColumn_eq alike, Dialect.supportsAlterColumnType]
    by_cases embedded : p.dialect.isEmbedded
    · rw [FieldModification.requests, if_pos embedded]
      simp only [embedded]
      exact planRests_of_eq rfl
    · simp only [embedded]
      exact constraints.append_right rfl

theorem planRests_modifyTable (m : TableModification)
    (declared : p.target.table? m.table = p'.target.table? m.table) :
    PlanRests p p' (m.requests p.dialect) (p.modifyTable m) (p'.modifyTable m) := by
  unfold modifyTable
  rw [← declared]
  cases found : p.target.table? m.table with
  | none =>
    refine ⟨fun _ => rfl, fun complete => absurd complete (Plan.not_complete_fail _)⟩
  | some table =>
    have adds := planRests_sequence fun field (_ : field ∈ m.fieldsAdded) =>
      planRests_addField alike m.table field
    have modifies := planRests_sequence fun change (_ : change ∈ m.fieldsModified) =>
      planRests_modifyField alike table change
    rw [Snapshot.name_of_table? found] at modifies
    refine PlanRests.append (adds.append_same ?_) modifies
    rw [removeField_eq alike]

theorem resultRests_predicate (table : String) (operation : Operation) (condition : Condition) :
    ResultRests p p' (condition.requests table) (p.predicate table operation condition)
      (p'.predicate table operation condition) := by
  cases condition with
  | always allowed =>
    simp only [predicate, ← alike.dialect]
    exact resultRests_refl _
  | expr e =>
    exact resultRests_single ⟨table, e⟩ id (SchemaError.policyCompile table operation)

theorem resultRests_policyBlock (change : AccessChange) :
    ResultRests p p' (change.requests p.dialect) (p.policyBlock change)
      (p'.policyBlock change) := by
  unfold policyBlock AccessChange.requests
  rw [← alike.dialect]
  split
  · exact (resultRests_mapM fun rule _ =>
      (resultRests_predicate alike change.table rule.1 rule.2.after).map _).map _
  · exact resultRests_refl _

theorem planRests_policies (changes : List AccessChange) :
    PlanRests p p' (changes.flatMap (·.requests p.dialect)) (p.policies changes)
      (p'.policies changes) := by
  refine PlanRests.append_again ?_ ?_
  · exact planRests_sequence fun change _ =>
      planRests_ofResult (resultRests_policyBlock alike change) fun _ => rfl
  · exact planRests_sequence fun change _ =>
      planRests_ofResult (resultRests_policyBlock alike change) fun _ => rfl

/-- Carrying out a diff rests on what the diff wants to have compiled. -/
theorem planRests_carryOut {diff : Diff} (declared : ∀ m ∈ diff.modified,
    p.target.table? m.table = p'.target.table? m.table) :
    PlanRests p p' (diff.requests p.dialect) (p.carryOut diff) (p'.carryOut diff) := by
  unfold carryOut Diff.requests
  refine PlanRests.append (PlanRests.append ?_ ?_) (planRests_policies alike diff.access)
  · refine (planRests_createTables alike diff.added).append_right ?_
    rw [dropTable_eq alike]
  · exact planRests_sequence fun m member => planRests_modifyTable alike m (declared m member)

end Parts

end Planner

end SchemaDelta
