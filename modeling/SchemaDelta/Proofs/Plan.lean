import SchemaDelta.Migration
import SchemaDelta.Proofs.Lookup

/-!
# Complete plans

A plan is complete when it does not end early. The parts of a complete plan are complete, and its
statements and warnings are those of its parts, one after the other. What all statements of the
parts have in common (`Plan.All`) the statements of any plan have in common, complete or not. A plan
that ends early ends by an error of one of its parts (`Plan.FailsBy`).
-/

namespace SchemaDelta

/-- All items have a result exactly when each of them has. -/
theorem mapM_eq_ok_iff {ε α β : Type} {f : α → Except ε β} {items : List α} {results : List β} :
    items.mapM f = .ok results ↔
      List.Forall₂ (fun item result => f item = .ok result) items results := by
  induction items generalizing results with
  | nil => simp [pure, Except.pure, eq_comm]
  | cons item items ih =>
    rw [List.mapM_cons, List.forall₂_cons_left_iff]
    constructor
    · intro made
      cases head : f item with
      | error e => simp [head, bind, Except.bind] at made
      | ok result =>
        cases tail : items.mapM f with
        | error e => simp [head, tail, bind, Except.bind] at made
        | ok rest =>
          rw [head, tail] at made
          cases made
          exact ⟨result, rest, rfl, ih.mp tail, rfl⟩
    · rintro ⟨result, rest, head, tail, rfl⟩
      rw [head, ih.mpr tail]
      rfl

/-- Every item has a result. -/
theorem exists_of_mapM {ε α β : Type} {f : α → Except ε β} {items : List α} {results : List β}
    {item : α} (made : items.mapM f = .ok results) (member : item ∈ items) :
    ∃ result, f item = .ok result := by
  obtain ⟨result, -, made⟩ := exists_right_of_forall₂ (mapM_eq_ok_iff.mp made) member
  exact ⟨result, made⟩

/-- Every result is that of an item. -/
theorem exists_of_mem_mapM {ε α β : Type} {f : α → Except ε β} {items : List α} {results : List β}
    {result : β} (made : items.mapM f = .ok results) (member : result ∈ results) :
    ∃ item ∈ items, f item = .ok result :=
  exists_left_of_forall₂ (mapM_eq_ok_iff.mp made) member

/-- An error is that of an item. -/
theorem exists_of_mapM_eq_error {ε α β : Type} {f : α → Except ε β} {items : List α} {e : ε}
    (failed : items.mapM f = .error e) : ∃ item ∈ items, f item = .error e := by
  induction items with
  | nil => cases failed
  | cons item items ih =>
    rw [List.mapM_cons] at failed
    cases head : f item with
    | error e' =>
      rw [head] at failed
      cases failed
      exact ⟨item, List.mem_cons_self, head⟩
    | ok result =>
      cases tail : items.mapM f with
      | error e' =>
        rw [head, tail] at failed
        cases failed
        obtain ⟨other, member, failed⟩ := ih tail
        exact ⟨other, List.mem_cons_of_mem _ member, failed⟩
      | ok rest =>
        rw [head, tail] at failed
        cases failed

namespace Plan

/-- The plan does not end early. -/
def Complete (plan : Plan) : Prop := plan.failure = none

/-- The statements that a plan executes, in order. -/
def statements (plan : Plan) : List Statement := plan.steps.filterMap Step.statement?

/-- The warnings that a plan gives, in order. -/
def warnings (plan : Plan) : List Warning := plan.steps.filterMap Step.warning?

variable {p q : Plan}

theorem complete_append : (p ++ q).Complete ↔ p.Complete ∧ q.Complete := by
  change (Plan.append p q).failure = none ↔ p.failure = none ∧ q.failure = none
  unfold Plan.append
  cases failed : p.failure with
  | some error => simp [failed]
  | none => simp

/-- Nothing follows a plan that ends early. -/
theorem append_of_not_complete (early : ¬ p.Complete) : p ++ q = p := by
  change Plan.append p q = p
  unfold Plan.append
  cases failed : p.failure with
  | some error => rfl
  | none => exact absurd failed early

theorem failure_append (complete : p.Complete) : (p ++ q).failure = q.failure := by
  change (Plan.append p q).failure = q.failure
  unfold Plan.append
  rw [complete]

theorem steps_append (complete : p.Complete) : (p ++ q).steps = p.steps ++ q.steps := by
  change (Plan.append p q).steps = p.steps ++ q.steps
  unfold Plan.append
  rw [complete]

theorem statements_append (complete : p.Complete) :
    (p ++ q).statements = p.statements ++ q.statements := by
  simp [statements, steps_append complete]

theorem warnings_append (complete : p.Complete) :
    (p ++ q).warnings = p.warnings ++ q.warnings := by
  simp [warnings, steps_append complete]

theorem complete_sequence {plans : List Plan} :
    (sequence plans).Complete ↔ ∀ plan ∈ plans, plan.Complete := by
  induction plans with
  | nil => simp [sequence, Complete, nothing]
  | cons plan plans ih => simp [sequence, complete_append, ih]

theorem statements_sequence {plans : List Plan} (complete : ∀ plan ∈ plans, plan.Complete) :
    (sequence plans).statements = plans.flatMap statements := by
  induction plans with
  | nil => rfl
  | cons plan plans ih =>
    obtain ⟨head, tail⟩ := List.forall_mem_cons.mp complete
    rw [sequence, statements_append head, ih tail, List.flatMap_cons]

theorem warnings_sequence {plans : List Plan} (complete : ∀ plan ∈ plans, plan.Complete) :
    (sequence plans).warnings = plans.flatMap warnings := by
  induction plans with
  | nil => rfl
  | cons plan plans ih =>
    obtain ⟨head, tail⟩ := List.forall_mem_cons.mp complete
    rw [sequence, warnings_append head, ih tail, List.flatMap_cons]

section Map

variable {α : Type} {items : List α} {plan : α → Plan}

theorem complete_sequence_map :
    (sequence (items.map plan)).Complete ↔ ∀ item ∈ items, (plan item).Complete := by
  rw [complete_sequence, List.forall_mem_map]

theorem statements_sequence_map (complete : ∀ item ∈ items, (plan item).Complete) :
    (sequence (items.map plan)).statements = items.flatMap fun item => (plan item).statements := by
  rw [statements_sequence (List.forall_mem_map.mpr complete), List.flatMap_map]

theorem warnings_sequence_map (complete : ∀ item ∈ items, (plan item).Complete) :
    (sequence (items.map plan)).warnings = items.flatMap fun item => (plan item).warnings := by
  rw [warnings_sequence (List.forall_mem_map.mpr complete), List.flatMap_map]

end Map

theorem complete_ofResult {α : Type} {result : Except SchemaError α} {plan : α → Plan} :
    (ofResult result plan).Complete ↔ ∃ value, result = .ok value ∧ (plan value).Complete := by
  cases result with
  | ok value => simp [ofResult]
  | error e => simp [ofResult, Complete, fail]

@[simp] theorem ofResult_ok {α : Type} (value : α) (plan : α → Plan) :
    ofResult (.ok value) plan = plan value := rfl

@[simp] theorem complete_nothing : nothing.Complete := rfl
@[simp] theorem statements_nothing : nothing.statements = [] := rfl
@[simp] theorem warnings_nothing : nothing.warnings = [] := rfl

@[simp] theorem complete_execute (statements : List Statement) : (execute statements).Complete :=
  rfl

@[simp] theorem statements_execute (statements : List Statement) :
    (execute statements).statements = statements := by
  simp [Plan.statements, execute, List.filterMap_map, Function.comp_def, Step.statement?]

@[simp] theorem warnings_execute (statements : List Statement) :
    (execute statements).warnings = [] := by
  simp [Plan.warnings, execute, List.filterMap_map, Function.comp_def, Step.warning?]

@[simp] theorem complete_warn (warning : Warning) : (warn warning).Complete := rfl
@[simp] theorem statements_warn (warning : Warning) : (warn warning).statements = [] := rfl
@[simp] theorem warnings_warn (warning : Warning) : (warn warning).warnings = [warning] := rfl

@[simp] theorem complete_sequence_warn {α : Type} (items : List α) (warning : α → Warning) :
    (sequence (items.map fun item => warn (warning item))).Complete :=
  complete_sequence_map.mpr (by simp)

@[simp] theorem statements_sequence_warn {α : Type} (items : List α) (warning : α → Warning) :
    (sequence (items.map fun item => warn (warning item))).statements = [] := by
  rw [statements_sequence_map (by simp)]
  simp

@[simp] theorem warnings_sequence_warn {α : Type} (items : List α) (warning : α → Warning) :
    (sequence (items.map fun item => warn (warning item))).warnings = items.map warning := by
  rw [warnings_sequence_map (by simp)]
  simp [← List.map_eq_flatMap]

@[simp] theorem not_complete_fail (error : SchemaError) : ¬ (fail error).Complete := by
  simp [Complete, fail]

/-- All statements of the plan have a property. -/
def All (P : Statement → Prop) (plan : Plan) : Prop := ∀ s ∈ plan.statements, P s

section All

variable {P : Statement → Prop}

@[simp] theorem all_nothing : nothing.All P := by simp [All]

@[simp] theorem all_fail (error : SchemaError) : (fail error).All P := by
  simp [All, statements, fail]

@[simp] theorem all_warn (warning : Warning) : (warn warning).All P := by simp [All]

@[simp] theorem all_execute {statements : List Statement} :
    (execute statements).All P ↔ ∀ s ∈ statements, P s := by
  simp [All]

theorem all_append (first : p.All P) (second : q.All P) : (p ++ q).All P := by
  change (Plan.append p q).All P
  unfold Plan.append
  cases p.failure with
  | some error => exact first
  | none =>
    intro s member
    simp only [statements, List.filterMap_append, List.mem_append] at member
    exact member.elim (first s) (second s)

theorem all_sequence {plans : List Plan} (each : ∀ plan ∈ plans, plan.All P) :
    (sequence plans).All P := by
  induction plans with
  | nil => exact all_nothing
  | cons plan plans ih =>
    obtain ⟨head, tail⟩ := List.forall_mem_cons.mp each
    exact all_append head (ih tail)

theorem all_ofResult {α : Type} {result : Except SchemaError α} {plan : α → Plan}
    (value : ∀ v, result = .ok v → (plan v).All P) : (ofResult result plan).All P := by
  cases result with
  | ok v => exact value v rfl
  | error e => exact all_fail e

end All

/-- The plan leaves nothing to the user. -/
def Silent (plan : Plan) : Prop := plan.warnings = []

section Silent

@[simp] theorem silent_nothing : nothing.Silent := rfl

@[simp] theorem silent_execute (statements : List Statement) : (execute statements).Silent :=
  warnings_execute statements

theorem silent_append (first : p.Silent) (second : q.Silent) : (p ++ q).Silent := by
  change (Plan.append p q).Silent
  unfold Plan.append
  cases p.failure with
  | some error => exact first
  | none =>
    change List.filterMap _ (p.steps ++ q.steps) = []
    rw [List.filterMap_append, List.append_eq_nil_iff]
    exact ⟨first, second⟩

theorem silent_sequence {plans : List Plan} (each : ∀ plan ∈ plans, plan.Silent) :
    (sequence plans).Silent := by
  induction plans with
  | nil => exact silent_nothing
  | cons plan plans ih =>
    obtain ⟨head, tail⟩ := List.forall_mem_cons.mp each
    exact silent_append head (ih tail)

theorem silent_ofResult {α : Type} {result : Except SchemaError α} {plan : α → Plan}
    (value : ∀ v, (plan v).Silent) : (ofResult result plan).Silent := by
  cases result with
  | ok v => exact value v
  | error e => rfl

end Silent

/-- The plan ends early by such errors only. -/
def FailsBy (P : SchemaError → Prop) (plan : Plan) : Prop := ∀ e, plan.failure = some e → P e

section FailsBy

variable {P : SchemaError → Prop}

theorem failsBy_of_complete (complete : p.Complete) : p.FailsBy P := by
  intro e failed
  rw [complete] at failed
  cases failed

theorem failsBy_append (first : p.FailsBy P) (second : q.FailsBy P) : (p ++ q).FailsBy P := by
  intro e failed
  change (Plan.append p q).failure = some e at failed
  unfold Plan.append at failed
  cases early : p.failure with
  | some e' =>
    rw [early] at failed
    exact first e failed
  | none =>
    rw [early] at failed
    exact second e failed

theorem failsBy_sequence {plans : List Plan} (each : ∀ plan ∈ plans, plan.FailsBy P) :
    (sequence plans).FailsBy P := by
  induction plans with
  | nil => exact failsBy_of_complete complete_nothing
  | cons plan plans ih =>
    obtain ⟨head, tail⟩ := List.forall_mem_cons.mp each
    exact failsBy_append head (ih tail)

theorem failsBy_ofResult {α : Type} {result : Except SchemaError α} {plan : α → Plan}
    (value : ∀ v, result = .ok v → (plan v).FailsBy P) (error : ∀ e, result = .error e → P e) :
    (ofResult result plan).FailsBy P := by
  cases result with
  | ok v => exact value v rfl
  | error e =>
    intro e' failed
    obtain rfl : e = e' := Option.some.inj failed
    exact error e rfl

end FailsBy

/-- A plan makes a migration exactly when it is complete. -/
theorem toMigration_eq_ok_iff {plan : Plan} {dialect : Dialect} {access : List AccessChange}
    {migration : Migration} :
    plan.toMigration dialect access = .ok migration ↔
      plan.Complete ∧ migration = ⟨dialect, plan.steps, access⟩ := by
  unfold toMigration Complete
  cases plan.failure with
  | some error => simp
  | none => simp [eq_comm]

/-- The error of a plan that ends early is the one it ends by. -/
theorem toMigration_eq_error_iff {plan : Plan} {dialect : Dialect} {access : List AccessChange}
    {e : SchemaError} : plan.toMigration dialect access = .error e ↔ plan.failure = some e := by
  unfold toMigration
  cases plan.failure with
  | some error => simp
  | none => simp

end Plan

end SchemaDelta
