import SchemaDelta.Proofs.Expressions.Agreement
import SchemaDelta.Proofs.Expressions.Compiled
import SchemaDelta.Proofs.FirstFault
import SchemaDelta.Config

/-!
# Faults of nodes

The compiler checks an expression node by node, from left to right, and the nodes below a node
before that node. Each node is fine or has a fault, whatever is below it, and the expression fails
by the first fault. No fault depends on the dialect, so all dialects accept the same expressions.
-/

namespace SchemaDelta

namespace Expr

mutual

/-- The nodes of an expression from left to right, those below a node before it. -/
def nodes : Expr → List Expr
  | literal value => [literal value]
  | field path => [field path]
  | var name => [var name]
  | compare op left right => left.nodes ++ right.nodes ++ [compare op left right]
  | and args => nodesOfArgs args ++ [and args]
  | or args => nodesOfArgs args ++ [or args]
  | not arg => arg.nodes ++ [not arg]
  | isNull arg => arg.nodes ++ [isNull arg]
  | call name args => nodesOfArgs args ++ [call name args]

/-- The nodes of all arguments. -/
def nodesOfArgs : List Expr → List Expr
  | [] => []
  | arg :: args => arg.nodes ++ nodesOfArgs args

end

end Expr

/-- The fault of a node, whatever is below it. -/
def Scope.fault? (scope : Scope) : Expr → Option CompileError
  | .literal value => failure? (scope.literal value)
  | .field path => failure? (scope.path scope.table (segments path).1 (segments path).2)
  | .var name =>
    match KeyedList.get? scope.bindings name with
    | some _ => none
    | none => some (.unboundVariable name)
  | .call name args =>
    match SqlFunction.ofName? name with
    | none => some (.unknownFunction name)
    | some function =>
      if function.arity.accepts args.length then none
      else some (.arity name function.arity args.length)
  | _ => none

section Compile

variable {scope : Scope}

theorem length_of_compileSqlList {es : List Expr} {sqls : List String}
    (compiled : compileSqlList scope es = .ok sqls) : sqls.length = es.length := by
  induction es generalizing sqls with
  | nil =>
    cases compiled
    rfl
  | cons e es ih =>
    obtain ⟨first, others, -, tail, rfl⟩ := compileSqlList_cons_eq_ok_iff.mp compiled
    rw [List.length_cons, List.length_cons, ih tail]

/-- A call only depends on the number of its arguments in whether it fails. -/
theorem failure?_call {name : String} {args : List Expr} {sqls : List String}
    (same : sqls.length = args.length) :
    failure? (scope.call name sqls) = scope.fault? (.call name args) := by
  simp only [Scope.call, Scope.fault?, same]
  cases SqlFunction.ofName? name with
  | none => rfl
  | some function =>
    by_cases accepted : function.arity.accepts args.length
    · simp only [accepted, if_true]
      rfl
    · simp only [accepted]
      rfl

theorem findSome?_append_node {before : List Expr} {node : Expr} :
    (before ++ [node]).findSome? scope.fault? =
      (before.findSome? scope.fault?).or (scope.fault? node) := by
  rw [List.findSome?_append]
  simp

/-- A node that needs nothing but the nodes below it. -/
theorem findSome?_append_sound {before : List Expr} {node : Expr}
    (sound : scope.fault? node = none) :
    (before ++ [node]).findSome? scope.fault? = before.findSome? scope.fault? := by
  rw [findSome?_append_node, sound, Option.or_none]

mutual

/-- An expression fails by the first fault of its nodes. The recursion is that of the compiler. -/
theorem failure?_compileSql :
    ∀ e : Expr, failure? (compileSql scope e) = e.nodes.findSome? scope.fault?
  | .literal value => by simp [compileSql, Expr.nodes, Scope.fault?]
  | .field path => by
    rw [compileSql_field]
    simp [Expr.nodes, Scope.fault?]
  | .var name => by
    rw [compileSql]
    cases bound : KeyedList.get? scope.bindings name with
    | none => simp [Expr.nodes, Scope.fault?, bound, failure?]
    | some sql => simp [Expr.nodes, Scope.fault?, bound, failure?]
  | .compare op left right => by
    rw [compileSql, Expr.nodes, findSome?_append_sound rfl, List.findSome?_append,
      ← failure?_compileSql left, ← failure?_compileSql right]
    apply failure?_bind
    intro l _
    apply failure?_bind_ok
  | .and args => by
    rw [compileSql, Expr.nodes, findSome?_append_sound rfl, ← failure?_compileSqlList args]
    apply failure?_bind_ok
  | .or args => by
    rw [compileSql, Expr.nodes, findSome?_append_sound rfl, ← failure?_compileSqlList args]
    apply failure?_bind_ok
  | .not arg => by
    rw [compileSql, Expr.nodes, findSome?_append_sound rfl, ← failure?_compileSql arg]
    apply failure?_bind_ok
  | .isNull arg => by
    rw [compileSql, Expr.nodes, findSome?_append_sound rfl, ← failure?_compileSql arg]
    apply failure?_bind_ok
  | .call name args => by
    rw [compileSql, Expr.nodes, findSome?_append_node, ← failure?_compileSqlList args]
    apply failure?_bind
    intro sqls compiled
    exact failure?_call (length_of_compileSqlList compiled)

theorem failure?_compileSqlList :
    ∀ es : List Expr,
      failure? (compileSqlList scope es) = (Expr.nodesOfArgs es).findSome? scope.fault?
  | [] => by simp [compileSqlList, Expr.nodesOfArgs, failure?]
  | e :: es => by
    rw [compileSqlList, Expr.nodesOfArgs, List.findSome?_append, ← failure?_compileSql e,
      ← failure?_compileSqlList es]
    apply failure?_bind
    intro sql _
    apply failure?_bind_ok

end

end Compile

/-! ## Other dialects and more variables -/

section Dialects

variable {scope : Scope}

theorem fault?_withDialect (dialect : Dialect) (node : Expr) :
    scope.fault? node = { scope with dialect }.fault? node := by
  cases node with
  | literal value =>
    simp only [Scope.fault?, Scope.literal]
    cases Constant.ofJson? value <;> rfl
  | field path =>
    simp only [Scope.fault?]
    congr 1
    apply Scope.path_eq_of_schema
    rfl
  | _ => rfl

/-- No fault depends on the dialect. -/
theorem failure?_withDialect (dialect : Dialect) (e : Expr) :
    failure? (compileSql scope e) = failure? (compileSql { scope with dialect } e) := by
  rw [failure?_compileSql, failure?_compileSql, funext (fault?_withDialect dialect)]

mutual

/-- The variables of an expression are among its nodes. -/
theorem Expr.var_mem_nodes : ∀ {e : Expr} {name : String}, name ∈ e.vars → .var name ∈ e.nodes
  | .literal _, _, member => by cases member
  | .field _, _, member => by cases member
  | .var _, _, member => by simpa [Expr.nodes, Expr.vars] using member
  | .compare _ left right, name, member => by
    rw [Expr.vars, List.mem_append] at member
    rw [Expr.nodes, List.mem_append, List.mem_append]
    rcases member with member | member
    · exact .inl (.inl (Expr.var_mem_nodes member))
    · exact .inl (.inr (Expr.var_mem_nodes member))
  | .and args, _, member => List.mem_append_left _ (Expr.var_mem_nodesOfArgs member)
  | .or args, _, member => List.mem_append_left _ (Expr.var_mem_nodesOfArgs member)
  | .not arg, _, member => List.mem_append_left _ (Expr.var_mem_nodes member)
  | .isNull arg, _, member => List.mem_append_left _ (Expr.var_mem_nodes member)
  | .call _ args, _, member => List.mem_append_left _ (Expr.var_mem_nodesOfArgs member)

theorem Expr.var_mem_nodesOfArgs :
    ∀ {es : List Expr} {name : String},
      name ∈ Expr.varsOfArgs es → .var name ∈ Expr.nodesOfArgs es
  | [], _, member => by cases member
  | e :: es, name, member => by
    rw [Expr.varsOfArgs, List.mem_append] at member
    rw [Expr.nodesOfArgs, List.mem_append]
    rcases member with member | member
    · exact .inl (Expr.var_mem_nodes member)
    · exact .inr (Expr.var_mem_nodesOfArgs member)

end

/-- All variables of an expression that compiles are bound. -/
theorem bound_of_compileSql {e : Expr} {sql name : String} (compiled : compileSql scope e = .ok sql)
    (mentioned : name ∈ e.vars) : ∃ text, KeyedList.get? scope.bindings name = some text := by
  have faultless : e.nodes.findSome? scope.fault? = none := by
    rw [← failure?_compileSql, compiled]
    rfl
  have node := List.findSome?_eq_none_iff.mp faultless _ (Expr.var_mem_nodes mentioned)
  rw [Scope.fault?] at node
  cases bound : KeyedList.get? scope.bindings name with
  | none =>
    rw [bound] at node
    cases node
  | some text => exact ⟨text, rfl⟩

/-- An expression has SQL in all dialects or in none, and then the same fault in all. Further
variables leave its SQL as it is. -/
theorem dialects_accept_the_same (scope : Scope) (dialect : Dialect) (e : Expr) :
    ((∃ sql, compileSql scope e = .ok sql) ↔
      ∃ sql, compileSql { scope with dialect } e = .ok sql) ∧
    (∀ fault, compileSql scope e = .error fault ↔
      compileSql { scope with dialect } e = .error fault) ∧
    ∀ bindings : List (String × String),
      (∀ name sql, KeyedList.get? scope.bindings name = some sql →
        KeyedList.get? bindings name = some sql) →
      ∀ sql, compileSql scope e = .ok sql → compileSql { scope with bindings } e = .ok sql := by
  have alike : failure? (compileSql scope e) = failure? (compileSql { scope with dialect } e) :=
    failure?_withDialect dialect e
  refine ⟨?_, ?_, ?_⟩
  · rw [← failure?_eq_none_iff, ← failure?_eq_none_iff, alike]
  · intro fault
    rw [← failure?_eq_some_iff, ← failure?_eq_some_iff, alike]
  · intro bindings kept sql compiled
    rw [← compiled]
    symm
    refine compileSql_eq_of_bindings e ?_ ?_ ?_ ?_
    iterate 3 rfl
    intro name mentioned
    obtain ⟨text, bound⟩ := bound_of_compileSql compiled mentioned
    rw [bound, kept name text bound]

/-- Nodes with one variable that is bound. -/
def onOwnNodes : Scope :=
  { onNodes with bindings := [("auth.uid", "current_setting('request.jwt.claim.sub', true)")] }

/-- A node is open to its owner, and it has no day. -/
def isOwnNode : Expr :=
  .and [.compare .eq (.field "owner_id.name") (.call "LOWER" [.var "auth.uid"]), .or [],
    .not (.isNull (.call "CURRENT_DATE" []))]

/-- A condition on nodes means the same with a second variable. For an embedded database it has
another SQL, and without the variable it has none for any dialect. -/
theorem dialects_accept_the_same_nodes :
    (∃ sql, compileSql onOwnNodes isOwnNode = .ok sql ∧
      compileSql { onOwnNodes with bindings := Config.standardBindings } isOwnNode = .ok sql) ∧
    (∃ sql, compileSql { onOwnNodes with dialect := .sqlite } isOwnNode = .ok sql) ∧
    compileSql { onNodes with dialect := .sqlite } isOwnNode =
      .error (.unboundVariable "auth.uid") := by
  have kept : ∀ name sql, KeyedList.get? onOwnNodes.bindings name = some sql →
      KeyedList.get? Config.standardBindings name = some sql := by
    intro name sql bound
    by_cases known : name = "auth.uid"
    · subst known
      exact bound
    · have other : (name == "auth.uid") = false := by simpa using known
      simp [KeyedList.get?, onOwnNodes, List.lookup_cons, other] at bound
  have compiled : compileSql onOwnNodes isOwnNode = .ok _ := rfl
  obtain ⟨accepted, -, stable⟩ := dialects_accept_the_same onOwnNodes .sqlite isOwnNode
  have refused := (dialects_accept_the_same onNodes .sqlite isOwnNode).2.1
  refine ⟨⟨_, compiled, stable Config.standardBindings kept _ compiled⟩, ?_, ?_⟩
  · exact accepted.mp ⟨_, compiled⟩
  · exact (refused _).mp rfl

end Dialects

end SchemaDelta
