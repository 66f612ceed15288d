import SchemaDelta.Proofs.Expressions.Compiled
import SchemaDelta.Proofs.Policies.Block

/-!
# Rendered defaults and conditions

What a planner writes for a default and for a condition, and the column that it declares for a
field. A constant has a literal; an expression has what the compiler makes of it, for a default with
the function names at its root in upper case. Only the compiler can fail.
-/

namespace SchemaDelta

namespace Planner

variable {planner : Planner} {table column sql : String} {field : Field}

/-- The SQL of a default. -/
inductive RendersDefault (planner : Planner) (table : String) : DefaultValue → String → Prop
  | constant (value : Constant) :
    RendersDefault planner table (.constant value) (planner.dialect.constantLiteral value)
  | computed {e : Expr} {sql : String}
    (compiled : planner.compiler (planner.scope table) e.uppercaseCalls = .ok sql) :
    RendersDefault planner table (.computed e) (planner.dialect.expressionDefault sql)

/-- The SQL of a condition. -/
inductive RendersCondition (planner : Planner) (table : String) : Condition → String → Prop
  | always (allowed : Bool) :
    RendersCondition planner table (.always allowed) (planner.dialect.booleanLiteral allowed)
  | expr {e : Expr} {sql : String} (compiled : planner.compiler (planner.scope table) e = .ok sql) :
    RendersCondition planner table (.expr e) sql

/-- The column declares what the field calls for. Where a foreign key is a constraint of its own, it
is no part of the column. -/
structure Declares (planner : Planner) (table : String) (field : Field) (column : Column) :
    Prop where
  name : column.name = field.name
  type : column.type = planner.dialect.columnType field.type
  key : column.key = field.keyClause
  noDefault : field.default = none → column.default = none
  default : ∀ value, field.default = some value →
    ∃ sql, column.default = some ⟨value, sql⟩ ∧ planner.RendersDefault table value sql
  references : column.references = if planner.dialect = .postgres then none else field.foreignKey

theorem defaultSql_eq_ok_iff {value : DefaultValue} :
    planner.defaultSql table column value = .ok sql ↔ planner.RendersDefault table value sql := by
  cases value with
  | constant value =>
    rw [defaultSql, Except.ok.injEq]
    constructor
    · rintro rfl
      exact .constant value
    · rintro ⟨⟩
      rfl
  | computed e =>
    rw [defaultSql, computedDefault]
    constructor
    · intro made
      cases compiled : planner.compiler (planner.scope table) e.uppercaseCalls with
      | error cause =>
        rw [compiled] at made
        cases made
      | ok text =>
        rw [compiled] at made
        cases made
        exact .computed compiled
    · rintro ⟨⟩
      rename_i compiled
      rw [compiled]

theorem predicate_eq_ok_iff {operation : Operation} {condition : Condition} :
    planner.predicate table operation condition = .ok sql ↔
      planner.RendersCondition table condition sql := by
  cases condition with
  | always allowed =>
    rw [predicate, Except.ok.injEq]
    constructor
    · rintro rfl
      exact .always allowed
    · rintro ⟨⟩
      rfl
  | expr e =>
    rw [predicate]
    constructor
    · intro made
      cases compiled : planner.compiler (planner.scope table) e with
      | error cause =>
        rw [compiled] at made
        cases made
      | ok text =>
        rw [compiled] at made
        cases made
        exact .expr compiled
    · rintro ⟨⟩
      rename_i compiled
      rw [compiled]

/-- A default fails by its expression. -/
theorem defaultSql_eq_error_iff {value : DefaultValue} {e : SchemaError} :
    planner.defaultSql table column value = .error e ↔ ∃ computed cause,
      value = .computed computed ∧
      planner.compiler (planner.scope table) computed.uppercaseCalls = .error cause ∧
      e = .defaultCompile table column cause := by
  cases value with
  | constant value => simp [defaultSql]
  | computed expr =>
    rw [defaultSql, computedDefault]
    cases compiled : planner.compiler (planner.scope table) expr.uppercaseCalls with
    | ok sql => simp [compiled]
    | error cause => simp [compiled, eq_comm]

/-- A condition fails by its expression. -/
theorem predicate_eq_error_iff {operation : Operation} {condition : Condition} {e : SchemaError} :
    planner.predicate table operation condition = .error e ↔ ∃ guard cause,
      condition = .expr guard ∧
      planner.compiler (planner.scope table) guard = .error cause ∧
      e = .policyCompile table operation cause := by
  cases condition with
  | always allowed => simp [predicate]
  | expr guard =>
    rw [predicate]
    cases compiled : planner.compiler (planner.scope table) guard with
    | ok sql => simp [compiled]
    | error cause => simp [compiled, eq_comm]

theorem renderDefault_eq_error_iff {value : DefaultValue} {e : SchemaError} :
    planner.renderDefault table column value = .error e ↔
      planner.defaultSql table column value = .error e := by
  rw [renderDefault, bind_eq_error_iff, or_iff_left_iff_imp]
  rintro ⟨sql, -, whole⟩
  cases whole

/-- A column fails by the default of its field. -/
theorem column_eq_error_iff {e : SchemaError} :
    planner.column table field = .error e ↔ ∃ value,
      field.default = some value ∧ planner.defaultSql table field.name value = .error e := by
  have whole : planner.column table field = .error e ↔
      planner.fieldDefault table field = .error e := by
    rw [column, bind_eq_error_iff, or_iff_left_iff_imp]
    rintro ⟨default, -, whole⟩
    cases whole
  rw [whole, fieldDefault]
  cases field.default with
  | none => simp
  | some value =>
    simp only [bind_eq_error_iff, renderDefault_eq_error_iff, Option.some.injEq, exists_eq_left']
    rw [or_iff_left_iff_imp]
    rintro ⟨rendered, -, whole⟩
    cases whole

theorem renders_of_renderDefault {value : DefaultValue} {rendered : RenderedDefault}
    (made : planner.renderDefault table column value = .ok rendered) :
    ∃ sql, rendered = ⟨value, sql⟩ ∧ planner.RendersDefault table value sql := by
  obtain ⟨sql, text, whole⟩ := bind_eq_ok_iff.mp made
  cases whole
  exact ⟨sql, rfl, defaultSql_eq_ok_iff.mp text⟩

theorem declares_of_column {definition : Column}
    (made : planner.column table field = .ok definition) :
    planner.Declares table field definition := by
  obtain ⟨rendered, default, whole⟩ := bind_eq_ok_iff.mp made
  cases whole
  have references : planner.dialect.inlineReference field =
      if planner.dialect = .postgres then none else field.foreignKey := by
    cases dialect : planner.dialect <;> rfl
  unfold fieldDefault at default
  cases declared : field.default with
  | none =>
    rw [declared] at default
    cases default
    refine ⟨rfl, rfl, rfl, fun _ => rfl, fun value some => ?_, references⟩
    rw [declared] at some
    cases some
  | some value =>
    rw [declared] at default
    obtain ⟨first, rendered, same⟩ := bind_eq_ok_iff.mp default
    cases same
    obtain ⟨sql, rfl, renders⟩ := renders_of_renderDefault rendered
    refine ⟨rfl, rfl, rfl, fun none => ?_, fun value' some => ?_, references⟩
    · rw [declared] at none
      cases none
    · obtain rfl := Option.some.inj (declared.symm.trans some)
      exact ⟨sql, rfl, renders⟩

/-- The conditions of a block of policies have SQL. -/
theorem predicate_of_policyBlock {change : AccessChange} {block : List Statement}
    (supported : planner.dialect.supportsPolicies = true)
    (made : planner.policyBlock change = .ok block) {operation : Operation}
    {rule : Change Condition} (recorded : change.get operation = some rule) :
    planner.predicate change.table operation rule.after =
      .ok (planner.predicateText change.table operation rule.after) := by
  unfold policyBlock at made
  rw [if_pos supported] at made
  obtain ⟨policies, created, -⟩ := bind_eq_ok_iff.mp made
  obtain ⟨s, policy⟩ := exists_of_mapM created (AccessChange.mem_changes.mpr recorded)
  obtain ⟨sql, text, -⟩ := bind_eq_ok_iff.mp policy
  rw [predicateText, text]
  rfl

/-- The policies of a complete plan have the SQL of their conditions. -/
theorem renders_predicateText {changes : List AccessChange}
    (supported : planner.dialect.supportsPolicies = true)
    (complete : (planner.policies changes).Complete) {change : AccessChange}
    (member : change ∈ changes) {operation : Operation} {rule : Change Condition}
    (recorded : change.get operation = some rule) :
    planner.RendersCondition change.table rule.after
      (planner.predicateText change.table operation rule.after) := by
  obtain ⟨-, blocks⟩ := Plan.complete_append.mp complete
  rw [Plan.complete_sequence_map] at blocks
  obtain ⟨block, made, -⟩ := Plan.complete_ofResult.mp (blocks change member)
  exact predicate_eq_ok_iff.mp (predicate_of_policyBlock supported made recorded)

end Planner

end SchemaDelta
