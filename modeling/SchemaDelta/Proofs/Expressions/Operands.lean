import SchemaDelta.Config
import SchemaDelta.Proofs.Script.Places
import SchemaDelta.Proofs.Script.Texts

/-!
# Compiled expressions as operands

Whatever an expression is compiled to is one operand, if the SQL that variables are bound to is: it
has a parenthesis around it wherever it has a blank or a comma, and names and strings are quoted. So
the SQL of each part of an expression is read back from the SQL of the whole as one word, and that
of the whole from the statement that it stands in.
-/

namespace SchemaDelta

/-! ## Literals and operators -/

theorem Number.operand_text (n : Number) : Operand n.text := by
  have differs {c other : Char} (member : c ∈ n.text.toList)
      (different : isNumeric other = false) := ne_of_isNumeric (n.numeric_text c member) different
  refine Uncut.bare ?_ ?_
  · intro c member
    simp [isBare, isParenthesis, Delimiter.ofChar?, Delimiter.char,
      differs member (rfl : isNumeric '"' = false),
      differs member (rfl : isNumeric (Char.ofNat 39) = false),
      differs member (rfl : isNumeric '(' = false), differs member (rfl : isNumeric ')' = false)]
  · intro c member
    simp [isSeparator, differs member (rfl : isNumeric ' ' = false),
      differs member (rfl : isNumeric ',' = false), differs member (rfl : isNumeric ';' = false)]

namespace Dialect

variable (dialect : Dialect)

theorem operand_booleanLiteral (value : Bool) : Operand (dialect.booleanLiteral value) := by
  cases dialect <;> cases value <;> decide

theorem operand_constantLiteral (value : Constant) : Operand (dialect.constantLiteral value) := by
  cases value with
  | null => exact (by decide : Operand "NULL")
  | bool value => exact dialect.operand_booleanLiteral value
  | number value => exact value.operand_text
  | text value => exact .enclose .single value rfl

theorem operand_expressionDefault {sql : String} (operand : Operand sql) :
    Operand (dialect.expressionDefault sql) := by
  unfold expressionDefault
  split
  · exact operand_enclosed operand.balanced
  · exact operand

end Dialect

theorem Comparison.operand_sql (op : Comparison) : Operand op.sql := by cases op <;> decide

/-! ## Paths, calls and lists -/

section Parts

variable {scope : Scope}

theorem Scope.operand_column {table field sql : String}
    (compiled : scope.column table field = .ok sql) : Operand sql := by
  unfold column at compiled
  split at compiled <;> cases compiled
  have point : Operand "." := by decide
  exact ((operand_identifier table).append point).append (operand_identifier field)

theorem Scope.operand_subselect (relation : Relation) {value column : String}
    (operandValue : Operand value) (operandColumn : Operand column) :
    Operand (subselect relation value column) := by
  have target := operand_identifier relation.toTable
  have key := (target.append (by decide : Operand ".")).append (operand_identifier relation.toField)
  have inside : Balanced (" ".intercalate ["SELECT", value, "FROM",
      Sql.identifier relation.toTable, "WHERE",
      Sql.identifier relation.toTable ++ "." ++ Sql.identifier relation.toField, "=", column]) := by
    refine Balanced.intercalate (by decide) ?_
    simp only [List.forall_mem_cons, operandValue.balanced, operandColumn.balanced,
      target.balanced, key.balanced, true_and]
    decide
  have text : subselect relation value column = "(" ++ " ".intercalate ["SELECT", value, "FROM",
      Sql.identifier relation.toTable, "WHERE",
      Sql.identifier relation.toTable ++ "." ++ Sql.identifier relation.toField, "=",
      column] ++ ")" := by
    rw [← String.toList_inj]
    unfold subselect
    simp only [String.intercalate_cons_cons, String.intercalate_singleton, String.toList_append,
      List.append_assoc]
    rfl
  rw [text]
  exact operand_enclosed inside

theorem Scope.operand_literal {value : Json} {sql : String}
    (compiled : scope.literal value = .ok sql) : Operand sql := by
  unfold literal at compiled
  split at compiled <;> cases compiled
  exact scope.dialect.operand_constantLiteral _

/-- Words in parentheses are one operand, from which the words are read back. -/
theorem operand_unwords {first : String} {others : List String}
    (operands : ∀ a ∈ first :: others, Operand a) :
    Operand ("(" ++ " ".intercalate (first :: others) ++ ")") ∧
      construct? ("(" ++ " ".intercalate (first :: others) ++ ")") =
        some ("", first :: others) := by
  have inside : Balanced (" ".intercalate (first :: others)) :=
    .intercalate (by decide) fun a member => (operands a member).balanced
  refine ⟨operand_enclosed inside, ?_⟩
  rw [construct?_parentheses inside, sqlWords_unwords operands]

theorem read_compare (op : Comparison) {l r : String} (left : Operand l) (right : Operand r) :
    Operand ("(" ++ l ++ " " ++ op.sql ++ " " ++ r ++ ")") ∧
      construct? ("(" ++ l ++ " " ++ op.sql ++ " " ++ r ++ ")") = some ("", [l, op.sql, r]) := by
  have text : "(" ++ l ++ " " ++ op.sql ++ " " ++ r ++ ")" =
      "(" ++ " ".intercalate [l, op.sql, r] ++ ")" := by
    simp only [String.intercalate_cons_cons, String.intercalate_singleton, String.append_assoc]
  rw [text]
  apply operand_unwords
  simp only [List.forall_mem_cons, left, right, op.operand_sql, true_and]
  exact List.forall_mem_nil _

theorem read_not {operand : String} (inner : Operand operand) :
    Operand ("(NOT " ++ operand ++ ")") ∧
      construct? ("(NOT " ++ operand ++ ")") = some ("", ["NOT", operand]) := by
  have text : "(NOT " ++ operand ++ ")" = "(" ++ " ".intercalate ["NOT", operand] ++ ")" := by
    rw [← String.toList_inj]
    simp only [String.intercalate_cons_cons, String.intercalate_singleton, String.toList_append,
      List.append_assoc]
    rfl
  rw [text]
  apply operand_unwords
  simp only [List.forall_mem_cons, inner, true_and]
  decide

theorem read_isNull {operand : String} (inner : Operand operand) :
    Operand ("(" ++ operand ++ " IS NULL)") ∧
      construct? ("(" ++ operand ++ " IS NULL)") = some ("", [operand, "IS", "NULL"]) := by
  have text : "(" ++ operand ++ " IS NULL)" =
      "(" ++ " ".intercalate [operand, "IS", "NULL"] ++ ")" := by
    rw [← String.toList_inj]
    simp only [String.intercalate_cons_cons, String.intercalate_singleton, String.toList_append,
      List.append_assoc]
    rfl
  rw [text]
  apply operand_unwords
  simp only [List.forall_mem_cons, inner, true_and]
  decide

/-- Operands in parentheses with an operator in between are read back with the operator. -/
theorem Scope.read_join {operator word : String} (spaced : operator = " " ++ word ++ " ")
    (operand : Operand word) (neutral : Bool) {operands : List String}
    (each : ∀ operand ∈ operands, Operand operand) :
    Operand (scope.join operator neutral operands) ∧
      (operands ≠ [] → construct? (scope.join operator neutral operands) =
        some ("", operands.intersperse word)) := by
  subst spaced
  cases operands with
  | nil => exact ⟨scope.dialect.operand_booleanLiteral neutral, fun none => absurd rfl none⟩
  | cons first others =>
    have blank : Balanced " " := by decide
    have inside : Balanced ((" " ++ word ++ " ").intercalate (first :: others)) :=
      .intercalate ((blank.append operand.balanced).append blank) fun a member =>
        (each a member).balanced
    refine ⟨operand_enclosed inside, fun _ => ?_⟩
    rw [intersperse_cons, ← sqlWords_intercalate (sqlWords_append_word operand) each]
    exact construct?_parentheses inside

theorem Scope.read_and {operands : List String} (each : ∀ operand ∈ operands, Operand operand) :
    Operand (scope.join " AND " true operands) ∧
      (operands ≠ [] → construct? (scope.join " AND " true operands) =
        some ("", operands.intersperse "AND")) :=
  read_join (by decide) (by decide) true each

theorem Scope.read_or {operands : List String} (each : ∀ operand ∈ operands, Operand operand) :
    Operand (scope.join " OR " false operands) ∧
      (operands ≠ [] → construct? (scope.join " OR " false operands) =
        some ("", operands.intersperse "OR")) :=
  read_join (by decide) (by decide) false each

/-- The call of a function is read back as its name and its arguments. -/
theorem SqlFunction.read_sql (function : SqlFunction) (dialect : Dialect) {args : List String}
    (accepted : function.arity.accepts args.length = true)
    (each : ∀ arg ∈ args, Operand arg) :
    Operand (function.sql dialect args) ∧
      (args ≠ [] → construct? (function.sql dialect args) =
        some (function.name, args.intersperse "")) := by
  have bare : args.length = 0 → args = [] := List.eq_nil_of_length_eq_zero
  have inside : Balanced (", ".intercalate args) :=
    .intercalate (by decide) fun arg member => (each arg member).balanced
  have named : Operand function.name ∧ Uncut isParenthesis function.name := by
    cases function <;> decide
  have text : function.name ++ "(" ++ ", ".intercalate args ++ ")" =
      function.name ++ ("(" ++ ", ".intercalate args ++ ")") := by
    simp only [String.append_assoc]
  have called : Operand (function.name ++ "(" ++ ", ".intercalate args ++ ")") ∧
      (args ≠ [] → construct? (function.name ++ "(" ++ ", ".intercalate args ++ ")") =
        some (function.name, args.intersperse "")) := by
    rw [text]
    refine ⟨named.1.append (operand_enclosed inside), fun some => ?_⟩
    obtain ⟨first, others, rfl⟩ := List.exists_cons_of_ne_nil some
    rw [construct?_enclosed named.2 inside, intersperse_cons,
      sqlWords_intercalate sqlWords_append_comma each]
  cases function
  case now | currentDate | uuid =>
    obtain rfl := bare (by simpa [arity, Arity.accepts] using accepted)
    refine ⟨?_, fun some => absurd rfl some⟩
    cases dialect <;> decide
  all_goals exact called

/-- A call is read back as the name that was called and its arguments. -/
theorem Scope.read_call {name sql : String} {args : List String}
    (each : ∀ arg ∈ args, Operand arg) (compiled : scope.call name args = .ok sql) :
    Operand sql ∧ (args ≠ [] → construct? sql = some (name, args.intersperse "")) := by
  unfold call at compiled
  cases known : SqlFunction.ofName? name with
  | none =>
    rw [known] at compiled
    cases compiled
  | some function =>
    have named := SqlFunction.name_of_ofName? known
    simp only [known] at compiled
    split at compiled
    · rename_i accepted
      cases compiled
      rw [← named]
      exact function.read_sql scope.dialect accepted each
    · cases compiled

theorem Scope.passes_operand (bound : ∀ binding ∈ scope.bindings, Operand binding.2) :
    scope.Passes Operand where
  literal := operand_literal
  column := operand_column
  subselect := operand_subselect
  bound := bound
  compare op _ _ left right := (read_compare op left right).1
  and each := (read_and each).1
  or each := (read_or each).1
  not inner := (read_not inner).1
  isNull inner := (read_isNull inner).1
  call each compiled := (read_call each compiled).1

end Parts

/-! ## Expressions -/

/-- How the SQL of an expression is read: the SQL of each of its parts is a word in the parentheses
that it ends with, and the operator is what else is there. A list of parts has at least one. -/
def Scope.ReadsAs (scope : Scope) (sql : String) : Expr → Prop
  | .literal _ | .field _ | .var _ => True
  | .compare op left right => ∃ l r, compileSql scope left = .ok l ∧
      compileSql scope right = .ok r ∧ construct? sql = some ("", [l, op.sql, r])
  | .and args => ∃ operands, compileSqlList scope args = .ok operands ∧
      (operands ≠ [] → construct? sql = some ("", operands.intersperse "AND"))
  | .or args => ∃ operands, compileSqlList scope args = .ok operands ∧
      (operands ≠ [] → construct? sql = some ("", operands.intersperse "OR"))
  | .not arg => ∃ operand, compileSql scope arg = .ok operand ∧
      construct? sql = some ("", ["NOT", operand])
  | .isNull arg => ∃ operand, compileSql scope arg = .ok operand ∧
      construct? sql = some ("", [operand, "IS", "NULL"])
  | .call name args => ∃ operands, compileSqlList scope args = .ok operands ∧
      (operands ≠ [] → construct? sql = some (name, operands.intersperse ""))

variable {scope : Scope} {e : Expr} {sql : String}

theorem readsAs_of_compileSql (bound : ∀ binding ∈ scope.bindings, Operand binding.2)
    (compiled : compileSql scope e = .ok sql) : scope.ReadsAs sql e := by
  have passes := Scope.passes_operand bound
  cases e with
  | literal | field | var => trivial
  | compare op left right =>
    obtain ⟨l, r, first, second, rfl⟩ := compileSql_compare_eq_ok_iff.mp compiled
    exact ⟨l, r, first, second, (read_compare op (passes.expr first) (passes.expr second)).2⟩
  | and args =>
    obtain ⟨operands, each, rfl⟩ := compileSql_and_eq_ok_iff.mp compiled
    exact ⟨operands, each, (Scope.read_and (passes.exprs each)).2⟩
  | or args =>
    obtain ⟨operands, each, rfl⟩ := compileSql_or_eq_ok_iff.mp compiled
    exact ⟨operands, each, (Scope.read_or (passes.exprs each)).2⟩
  | not arg =>
    obtain ⟨operand, inner, rfl⟩ := compileSql_not_eq_ok_iff.mp compiled
    exact ⟨operand, inner, (read_not (passes.expr inner)).2⟩
  | isNull arg =>
    obtain ⟨operand, inner, rfl⟩ := compileSql_isNull_eq_ok_iff.mp compiled
    exact ⟨operand, inner, (read_isNull (passes.expr inner)).2⟩
  | call name args =>
    obtain ⟨operands, each, called⟩ := compileSql_call_eq_ok_iff.mp compiled
    exact ⟨operands, each, (Scope.read_call (passes.exprs each) called).2⟩

/-- Under bindings that are operands every compiled expression is an operand. Its parts are read
back from it, and it is one word of the statement that it stands in, as a predicate or as a
default. -/
theorem compiled_expressions_are_operands
    (bound : ∀ binding ∈ scope.bindings, Operand binding.2)
    (compiled : compileSql scope e = .ok sql) :
    Operand sql ∧ scope.ReadsAs sql e ∧ IsPredicate sql ∧
      IsDefault (scope.dialect.expressionDefault sql) := by
  have operand := (Scope.passes_operand bound).expr compiled
  refine ⟨operand, readsAs_of_compileSql bound compiled, .ofOperand operand, ?_⟩
  exact .ofOperand (scope.dialect.operand_expressionDefault operand)

/-- A scope in which a table, its column and a variable have parentheses, commas and quotes. -/
def onHostile : Scope where
  dialect := .sqlite
  table := "a), (b;"
  schema := {
    tables := [{ name := "a), (b;", fields := [{ name := "\") OR (1, ", type := .text }] }] }
  bindings := Config.standardBindings

/-- A condition with a string that tries to close its quotes. -/
def isHostile : Expr :=
  .not (.compare .eq
    (.call "COALESCE" [.field "\") OR (1, ", .literal (.string "'), (")]) (.var "auth.uid"))

/-- What is negated, and the predicate and default as a whole, are single words. -/
theorem compiled_expressions_are_operands_hostile :
    (∀ binding ∈ onHostile.bindings, Operand binding.2) ∧
    ∃ sql operand, compileSql onHostile isHostile = .ok sql ∧ Operand sql ∧
      construct? sql = some ("", ["NOT", operand]) ∧ IsPredicate sql ∧
      IsDefault ("(" ++ sql ++ ")") := by
  have bound : ∀ binding ∈ onHostile.bindings, Operand binding.2 := by decide
  have compiled : compileSql onHostile isHostile = .ok _ := rfl
  obtain ⟨operand, ⟨inner, -, read⟩, predicate, default⟩ :=
    compiled_expressions_are_operands bound compiled
  exact ⟨bound, _, inner, compiled, operand, read, predicate, default⟩

end SchemaDelta
