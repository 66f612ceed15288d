import SchemaDelta.Compiler

/-!
# Compiled expressions

The SQL of an expression is put together from the SQL of its parts, all of which compile. What the
compiler does with a node is read off here once, for every kind of node.
-/

namespace SchemaDelta

theorem bind_eq_ok_iff {ε α β : Type} {result : Except ε α} {next : α → Except ε β} {value : β} :
    (result >>= next) = .ok value ↔ ∃ first, result = .ok first ∧ next first = .ok value := by
  cases result with
  | error e => simp [bind, Except.bind]
  | ok first => simp [bind, Except.bind]

theorem bind_eq_error_iff {ε α β : Type} {result : Except ε α} {next : α → Except ε β} {e : ε} :
    (result >>= next) = .error e ↔
      result = .error e ∨ ∃ first, result = .ok first ∧ next first = .error e := by
  cases result with
  | error e' => simp [bind, Except.bind]
  | ok first => simp [bind, Except.bind]

/-- A function of the catalogue is found by its name. -/
theorem SqlFunction.ofName?_name (function : SqlFunction) :
    ofName? function.name = some function := by
  cases function <;> rfl

theorem SqlFunction.name_of_ofName? {name : String} {function : SqlFunction}
    (found : ofName? name = some function) : function.name = name := by
  simpa using List.find?_some found

variable {scope : Scope} {sql : String}

theorem compileSql_var_eq_ok_iff {name : String} :
    compileSql scope (.var name) = .ok sql ↔ KeyedList.get? scope.bindings name = some sql := by
  rw [compileSql]
  cases KeyedList.get? scope.bindings name <;> simp

theorem compileSql_compare_eq_ok_iff {op : Comparison} {left right : Expr} :
    compileSql scope (.compare op left right) = .ok sql ↔
      ∃ l r, compileSql scope left = .ok l ∧ compileSql scope right = .ok r ∧
        "(" ++ l ++ " " ++ op.sql ++ " " ++ r ++ ")" = sql := by
  rw [compileSql]
  simp only [bind_eq_ok_iff, pure, Except.pure, Except.ok.injEq]
  grind

theorem compileSql_and_eq_ok_iff {args : List Expr} :
    compileSql scope (.and args) = .ok sql ↔
      ∃ operands, compileSqlList scope args = .ok operands ∧
        scope.join " AND " true operands = sql := by
  rw [compileSql]
  simp only [bind_eq_ok_iff, pure, Except.pure, Except.ok.injEq]

theorem compileSql_or_eq_ok_iff {args : List Expr} :
    compileSql scope (.or args) = .ok sql ↔
      ∃ operands, compileSqlList scope args = .ok operands ∧
        scope.join " OR " false operands = sql := by
  rw [compileSql]
  simp only [bind_eq_ok_iff, pure, Except.pure, Except.ok.injEq]

theorem compileSql_not_eq_ok_iff {arg : Expr} :
    compileSql scope (.not arg) = .ok sql ↔
      ∃ operand, compileSql scope arg = .ok operand ∧ "(NOT " ++ operand ++ ")" = sql := by
  rw [compileSql]
  simp only [bind_eq_ok_iff, pure, Except.pure, Except.ok.injEq]

theorem compileSql_isNull_eq_ok_iff {arg : Expr} :
    compileSql scope (.isNull arg) = .ok sql ↔
      ∃ operand, compileSql scope arg = .ok operand ∧ "(" ++ operand ++ " IS NULL)" = sql := by
  rw [compileSql]
  simp only [bind_eq_ok_iff, pure, Except.pure, Except.ok.injEq]

theorem compileSql_call_eq_ok_iff {name : String} {args : List Expr} :
    compileSql scope (.call name args) = .ok sql ↔
      ∃ operands, compileSqlList scope args = .ok operands ∧
        scope.call name operands = .ok sql := by
  rw [compileSql]
  simp only [bind_eq_ok_iff]

theorem compileSqlList_cons_eq_ok_iff {e : Expr} {es : List Expr} {sqls : List String} :
    compileSqlList scope (e :: es) = .ok sqls ↔
      ∃ first others, compileSql scope e = .ok first ∧ compileSqlList scope es = .ok others ∧
        first :: others = sqls := by
  rw [compileSqlList]
  simp only [bind_eq_ok_iff, pure, Except.pure, Except.ok.injEq]
  grind

/-- A path goes on where the first column is a foreign key. -/
theorem Scope.path_cons_eq_ok_iff {table field next : String} {others : List String} :
    scope.path table field (next :: others) = .ok sql ↔
      ∃ column relation value, scope.column table field = .ok column ∧
        scope.schema.relation? table field = some relation ∧
        scope.path relation.toTable next others = .ok value ∧
        Scope.subselect relation value column = sql := by
  rw [Scope.path]
  cases scope.column table field with
  | error e => simp
  | ok column =>
    cases scope.schema.relation? table field with
    | none => simp
    | some relation => cases inner : scope.path relation.toTable next others <;> simp [inner]

/-! ## Properties of compiled texts -/

/-- A property that the SQL of every kind of node has if that of its parts has it. -/
structure Scope.Passes (scope : Scope) (P : String → Prop) : Prop where
  literal {value : Json} {sql : String} (compiled : scope.literal value = .ok sql) : P sql
  column {table field sql : String} (compiled : scope.column table field = .ok sql) : P sql
  subselect (relation : Relation) {value column : String} (ofValue : P value)
    (ofColumn : P column) : P (Scope.subselect relation value column)
  bound : ∀ binding ∈ scope.bindings, P binding.2
  compare (op : Comparison) {l r : String} (left : P l) (right : P r) :
    P ("(" ++ l ++ " " ++ op.sql ++ " " ++ r ++ ")")
  and {operands : List String} (each : ∀ operand ∈ operands, P operand) :
    P (scope.join " AND " true operands)
  or {operands : List String} (each : ∀ operand ∈ operands, P operand) :
    P (scope.join " OR " false operands)
  not {operand : String} (inner : P operand) : P ("(NOT " ++ operand ++ ")")
  isNull {operand : String} (inner : P operand) : P ("(" ++ operand ++ " IS NULL)")
  call {name sql : String} {args : List String} (each : ∀ arg ∈ args, P arg)
    (compiled : scope.call name args = .ok sql) : P sql

namespace Scope.Passes

variable {P : String → Prop}

theorem path (passes : scope.Passes P) {table field : String} {others : List String}
    (compiled : scope.path table field others = .ok sql) : P sql := by
  induction others generalizing table field sql with
  | nil => exact passes.column compiled
  | cons next others ih =>
    obtain ⟨column, relation, value, here, -, inner, rfl⟩ :=
      Scope.path_cons_eq_ok_iff.mp compiled
    exact passes.subselect relation (ih inner) (passes.column here)

mutual

/-- The SQL of every expression has the property. The recursion is that of the compiler. -/
theorem expr (passes : scope.Passes P) :
    ∀ {e : Expr} {sql : String}, compileSql scope e = .ok sql → P sql
  | .literal value, sql, compiled => by
    rw [compileSql] at compiled
    exact passes.literal compiled
  | .field path, sql, compiled => by
    rw [compileSql] at compiled
    exact passes.path compiled
  | .var name, sql, compiled => by
    obtain ⟨before, after, bindings, -⟩ :=
      List.lookup_eq_some_iff.mp (compileSql_var_eq_ok_iff.mp compiled)
    exact passes.bound (name, sql) (by simp [bindings])
  | .compare op left right, sql, compiled => by
    obtain ⟨l, r, first, second, rfl⟩ := compileSql_compare_eq_ok_iff.mp compiled
    exact passes.compare op (passes.expr first) (passes.expr second)
  | .and args, sql, compiled => by
    obtain ⟨operands, each, rfl⟩ := compileSql_and_eq_ok_iff.mp compiled
    exact passes.and (passes.exprs each)
  | .or args, sql, compiled => by
    obtain ⟨operands, each, rfl⟩ := compileSql_or_eq_ok_iff.mp compiled
    exact passes.or (passes.exprs each)
  | .not arg, sql, compiled => by
    obtain ⟨operand, inner, rfl⟩ := compileSql_not_eq_ok_iff.mp compiled
    exact passes.not (passes.expr inner)
  | .isNull arg, sql, compiled => by
    obtain ⟨operand, inner, rfl⟩ := compileSql_isNull_eq_ok_iff.mp compiled
    exact passes.isNull (passes.expr inner)
  | .call name args, sql, compiled => by
    obtain ⟨operands, each, called⟩ := compileSql_call_eq_ok_iff.mp compiled
    exact passes.call (passes.exprs each) called

theorem exprs (passes : scope.Passes P) :
    ∀ {es : List Expr} {sqls : List String},
      compileSqlList scope es = .ok sqls → ∀ sql ∈ sqls, P sql
  | [], sqls, compiled => by
    cases compiled
    exact List.forall_mem_nil _
  | e :: es, sqls, compiled => by
    obtain ⟨first, others, head, tail, rfl⟩ := compileSqlList_cons_eq_ok_iff.mp compiled
    exact List.forall_mem_cons.mpr ⟨passes.expr head, passes.exprs tail⟩

end

end Scope.Passes

end SchemaDelta
