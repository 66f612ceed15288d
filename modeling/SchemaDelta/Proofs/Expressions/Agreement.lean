import SchemaDelta.Proofs.Expressions.Sources

/-!
# What the SQL of an expression depends on

An expression is compiled by looking up its paths and its variables. Scopes that agree on those give
it the same SQL, or the same error.
-/

namespace SchemaDelta

namespace Expr

mutual

/-- The variables in an expression. -/
def vars : Expr → List String
  | literal _ => []
  | field _ => []
  | var name => [name]
  | compare _ left right => left.vars ++ right.vars
  | and args => varsOfArgs args
  | or args => varsOfArgs args
  | not arg => arg.vars
  | isNull arg => arg.vars
  | call _ args => varsOfArgs args

/-- The variables in all arguments. -/
def varsOfArgs : List Expr → List String
  | [] => []
  | arg :: args => arg.vars ++ varsOfArgs args

end

end Expr

namespace Scope

/-- Two scopes for one dialect give the same SQL to the paths, and bind the variables alike. -/
structure Agrees (scope scope' : Scope) (paths vars : List String) : Prop where
  dialect : scope.dialect = scope'.dialect
  paths : ∀ path ∈ paths, compileSql scope (.field path) = compileSql scope' (.field path)
  vars : ∀ name ∈ vars,
    KeyedList.get? scope.bindings name = KeyedList.get? scope'.bindings name

theorem Agrees.append {scope scope' : Scope} {paths paths' vars vars' : List String}
    (agree : scope.Agrees scope' (paths ++ paths') (vars ++ vars')) :
    scope.Agrees scope' paths vars ∧ scope.Agrees scope' paths' vars' :=
  ⟨⟨agree.dialect, fun path member => agree.paths path (List.mem_append_left _ member),
      fun name member => agree.vars name (List.mem_append_left _ member)⟩,
    ⟨agree.dialect, fun path member => agree.paths path (List.mem_append_right _ member),
      fun name member => agree.vars name (List.mem_append_right _ member)⟩⟩

end Scope

section Agreement

variable {scope scope' : Scope}

mutual

theorem compileSql_eq_of_agrees : ∀ e : Expr, scope.Agrees scope' e.paths e.vars →
    compileSql scope e = compileSql scope' e
  | .literal value, agree => by
    simp only [compileSql, Scope.literal, agree.dialect]
  | .field path, agree => agree.paths path (by simp [Expr.paths])
  | .var name, agree => by
    simp only [compileSql, agree.vars name (by simp [Expr.vars])]
  | .compare op left right, agree => by
    obtain ⟨agreeLeft, agreeRight⟩ := agree.append
    simp only [compileSql, compileSql_eq_of_agrees left agreeLeft,
      compileSql_eq_of_agrees right agreeRight]
  | .and args, agree => by
    simp only [compileSql, compileSqlList_eq_of_agrees args agree, Scope.join, agree.dialect]
  | .or args, agree => by
    simp only [compileSql, compileSqlList_eq_of_agrees args agree, Scope.join, agree.dialect]
  | .not arg, agree => by
    simp only [compileSql, compileSql_eq_of_agrees arg agree]
  | .isNull arg, agree => by
    simp only [compileSql, compileSql_eq_of_agrees arg agree]
  | .call name args, agree => by
    simp only [compileSql, compileSqlList_eq_of_agrees args agree, Scope.call, agree.dialect]

theorem compileSqlList_eq_of_agrees : ∀ es : List Expr,
    scope.Agrees scope' (Expr.pathsOfArgs es) (Expr.varsOfArgs es) →
      compileSqlList scope es = compileSqlList scope' es
  | [], _ => by simp only [compileSqlList]
  | e :: es, agree => by
    obtain ⟨agreeFirst, agreeOthers⟩ := agree.append
    simp only [compileSqlList, compileSql_eq_of_agrees e agreeFirst,
      compileSqlList_eq_of_agrees es agreeOthers]

end

/-- A path depends on the schema alone. -/
theorem Scope.path_eq_of_schema (schema : scope.schema = scope'.schema) (table field : String)
    (segments : List String) :
    scope.path table field segments = scope'.path table field segments := by
  induction segments generalizing table field with
  | nil => simp only [path, column, schema]
  | cons next segments ih => simp only [path, column, schema, ih]

/-- On one table of one schema only the variables make a difference. -/
theorem compileSql_eq_of_bindings (e : Expr) (dialect : scope.dialect = scope'.dialect)
    (table : scope.table = scope'.table) (schema : scope.schema = scope'.schema)
    (vars : ∀ name ∈ e.vars,
      KeyedList.get? scope.bindings name = KeyedList.get? scope'.bindings name) :
    compileSql scope e = compileSql scope' e := by
  refine compileSql_eq_of_agrees e ⟨dialect, fun path _ => ?_, vars⟩
  simp only [compileSql, table, Scope.path_eq_of_schema schema]

end Agreement

end SchemaDelta
