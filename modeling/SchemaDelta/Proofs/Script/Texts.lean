import SchemaDelta.Proofs.Expressions.Compiled
import SchemaDelta.Proofs.Number.Digits
import SchemaDelta.Proofs.Script.Lexer

/-!
# Texts in a script

All pieces of SQL are closed that are made of closed pieces: names and strings are quoted, and the
words, operators and numbers between them have neither quotes nor semicolons. What an expression is
compiled to is closed if the SQL that its variables are bound to is.
-/

namespace SchemaDelta

section Numbers

/-- A character that occurs in numbers. -/
def isNumeric (c : Char) : Bool := c.isDigit || c == '.' || c == '-' || c == '+' || c == 'e'

/-- Text of digits, points, signs and marks of an exponent. -/
def Numeric (text : String) : Prop := ∀ c ∈ text.toList, isNumeric c = true

instance (text : String) : Decidable (Numeric text) := List.decidableBAll _ text.toList

theorem isNumeric_of_isDigit {c : Char} (digit : c.isDigit = true) : isNumeric c = true := by
  simp [isNumeric, digit]

/-- What is no character of numbers does not occur in them. -/
theorem ne_of_isNumeric {c other : Char} (numeric : isNumeric c = true)
    (different : isNumeric other = false) : c ≠ other := by
  rintro rfl
  exact absurd (numeric.symm.trans different) (by decide)

theorem numeric_append {a b : String} : Numeric (a ++ b) ↔ Numeric a ∧ Numeric b := by
  simp only [Numeric, String.toList_append, List.forall_mem_append]

/-- Letters from a text are as numeric as the text. -/
theorem Numeric.of_subset {text : String} {letters : List Char} (numeric : Numeric text)
    (subset : letters ⊆ text.toList) : Numeric (String.ofList letters) := by
  intro c member
  rw [String.toList_ofList] at member
  exact numeric c (subset member)

theorem numeric_nat (n : Nat) : Numeric (toString n) := by
  intro c member
  rw [toList_toString] at member
  exact isNumeric_of_isDigit (isDigit_of_mem_toDigits member)

theorem numeric_int (n : Int) : Numeric (toString n) := by
  change Numeric n.repr
  rw [Int.repr_eq_if]
  split
  · exact numeric_nat n.toNat
  · exact numeric_append.mpr ⟨by decide, numeric_nat (-n).toNat⟩

theorem numeric_pushn_zero (n : Nat) : Numeric ("".pushn '0' n) := by
  rw [String.pushn_eq_repeat_push]
  induction n with
  | zero => decide
  | succ n ih =>
    intro c member
    rw [Nat.repeat, String.toList_push, List.mem_append, List.mem_singleton] at member
    rcases member with before | rfl
    · exact ih c before
    · decide

theorem Binary64.numeric_magnitudeText (x : Binary64) : Numeric x.magnitudeText := by
  have digits := numeric_nat x.shortest.digits
  have exponent :=
    numeric_nat (x.shortest.exponent + (toString x.shortest.digits).length - 1).natAbs
  have taken (n : Nat) := digits.of_subset (List.take_subset n _)
  have dropped (n : Nat) := digits.of_subset (List.drop_subset n _)
  have point : Numeric "." := by decide
  simp only [magnitudeText]
  split
  · decide
  · split
    · split
      · exact numeric_append.mpr ⟨numeric_append.mpr ⟨digits, numeric_pushn_zero _⟩, by decide⟩
      · split
        · exact numeric_append.mpr ⟨numeric_append.mpr ⟨taken _, point⟩, dropped _⟩
        · exact numeric_append.mpr ⟨numeric_append.mpr ⟨by decide, numeric_pushn_zero _⟩, digits⟩
    · refine numeric_append.mpr
        ⟨numeric_append.mpr ⟨numeric_append.mpr ⟨taken 1, ?_⟩, ?_⟩, exponent⟩
      · split
        · decide
        · exact numeric_append.mpr ⟨point, dropped 1⟩
      · split <;> decide

theorem Number.numeric_text (n : Number) : Numeric n.text := by
  cases n with
  | integer n => exact numeric_int n
  | decimal x =>
    refine numeric_append.mpr ⟨?_, x.numeric_magnitudeText⟩
    split <;> decide

theorem Number.plain_text (n : Number) : Plain n.text := by
  intro c member
  have differs {other : Char} (different : isNumeric other = false) :=
    ne_of_isNumeric (n.numeric_text c member) different
  simp [isPlain, Delimiter.ofChar?, Delimiter.char, differs (rfl : isNumeric '"' = false),
    differs (rfl : isNumeric (Char.ofNat 39) = false), differs (rfl : isNumeric ';' = false)]

end Numbers

namespace Dialect

variable (dialect : Dialect)

theorem closed_booleanLiteral (value : Bool) : Closed (dialect.booleanLiteral value) := by
  cases dialect <;> cases value <;> exact .word rfl

theorem closed_constantLiteral (value : Constant) : Closed (dialect.constantLiteral value) := by
  cases value with
  | null => exact (.word rfl : Closed "NULL")
  | bool value => exact dialect.closed_booleanLiteral value
  | number value => exact value.plain_text.closed
  | text value => exact .stringLiteral value

theorem closed_expressionDefault {sql : String} (closed : Closed sql) :
    Closed (dialect.expressionDefault sql) := by
  unfold expressionDefault
  split
  · exact ((.word rfl : Closed "(").append closed).append (.word rfl)
  · exact closed

end Dialect

theorem NativeType.closed_name (type : NativeType) : Closed type.name := by
  cases type <;> exact .word rfl

theorem Comparison.closed_sql (op : Comparison) : Closed op.sql := by
  cases op <;> exact .word rfl

namespace Sql

theorem closed_actionClause {event : String} (closed : Closed event)
    (action : Option ReferentialAction) : Closed (actionClause event action) := by
  cases action with
  | none => exact .word rfl
  | some action =>
    have named : Closed action.sql := by cases action <;> exact .word rfl
    exact (((.word rfl : Closed " ON ").append closed).append (.word rfl)).append named

theorem closed_referencesClause (key : ForeignKey) : Closed (referencesClause key) := by
  have onDelete : Closed (actionClause "DELETE" key.onDelete) := closed_actionClause (.word rfl) _
  have onUpdate : Closed (actionClause "UPDATE" key.onUpdate) := closed_actionClause (.word rfl) _
  unfold referencesClause
  repeat' with_reducible apply Closed.append
  all_goals first | with_reducible first | exact .identifier _ | assumption | exact .word rfl

theorem closed_columnDefinition (name : String) (type : NativeType) (key : KeyClause)
    (default : Option String) (references : Option ForeignKey)
    (closed : ∀ sql ∈ default, Closed sql) :
    Closed (columnDefinition name type key default references) := by
  have named : Closed (identifier name ++ " " ++ type.name) :=
    ((Closed.identifier name).append (.word rfl)).append type.closed_name
  have clause : Closed (keyClause key) := by cases key <;> exact .word rfl
  refine Closed.append (Closed.append (named.append clause) ?default) ?references
  case default =>
    cases default with
    | none => exact (.word rfl : Closed "")
    | some sql => exact (.word rfl : Closed " DEFAULT ").append (closed sql rfl)
  case references =>
    cases references with
    | none => exact (.word rfl : Closed "")
    | some key => exact (.word rfl : Closed " ").append (closed_referencesClause key)

theorem closed_policyClause {predicate : String} (closed : Closed predicate)
    (operation : Operation) : Closed (policyClause predicate operation) := by
  unfold policyClause
  split
  all_goals
    repeat' with_reducible apply Closed.append
    all_goals first | with_reducible exact closed | exact .word rfl

end Sql

theorem Column.closed_render {column : Column}
    (closed : ∀ default ∈ column.default, Closed default.sql) : Closed column.render := by
  refine Sql.closed_columnDefinition _ _ _ _ _ fun sql member => ?_
  obtain ⟨default, declared, rfl⟩ := Option.map_eq_some_iff.mp member
  exact closed default declared

namespace Statement

/-- What a statement takes over as it is: the SQL of defaults and predicates. -/
def fragments : Statement → List String
  | createTable _ columns => columns.filterMap fun column => column.default.map RenderedDefault.sql
  | addColumn _ column => (column.default.map RenderedDefault.sql).toList
  | setDefault _ _ default => [default.sql]
  | createPolicy _ _ predicate => [predicate]
  | _ => []

theorem closed_render {statement : Statement} (closed : ∀ sql ∈ statement.fragments, Closed sql) :
    Closed statement.render := by
  cases statement <;> unfold render
  case' createTable table columns =>
    have definitions : Closed (",\n    ".intercalate (columns.map Column.render)) := by
      refine Closed.intercalate (.word rfl) (List.forall_mem_map.mpr fun column member => ?_)
      refine Column.closed_render fun default declared => closed _ ?_
      exact List.mem_filterMap.mpr ⟨column, member, by rw [declared, Option.map_some]⟩
    unfold Sql.createTable
  case' dropTable table cascade =>
    have clause : Closed (if cascade then " CASCADE" else "") := by split <;> exact .word rfl
    unfold Sql.dropTable
  case' addColumn table column =>
    have definition : Closed column.render := by
      refine Column.closed_render fun default declared => closed _ ?_
      rw [fragments, declared, Option.map_some]
      exact List.mem_singleton.mpr rfl
    unfold Sql.addColumn Sql.alterTable
  case' dropColumn => unfold Sql.dropColumn Sql.alterTable
  case' renameColumn => unfold Sql.renameColumn Sql.alterTable
  case' alterColumnType table column type =>
    have native := type.closed_name
    unfold Sql.alterColumnType Sql.alterColumn Sql.alterTable
  case' copyCast table source target type =>
    have native := type.closed_name
    unfold Sql.copyCast
  case' alterNullable table column nullable =>
    have clause : Closed (if nullable then " DROP" else " SET") := by split <;> exact .word rfl
    unfold Sql.alterNullable Sql.alterColumn Sql.alterTable
  case' setDefault table column default =>
    have sql : Closed default.sql := closed _ (List.mem_singleton.mpr rfl)
    unfold Sql.setDefault Sql.alterColumn Sql.alterTable
  case' dropDefault => unfold Sql.dropDefault Sql.alterColumn Sql.alterTable
  case' addForeignKey table column key =>
    have references := Sql.closed_referencesClause key
    unfold Sql.addForeignKey Sql.alterTable
  case' dropForeignKey => unfold Sql.dropForeignKey Sql.alterTable
  case' enableRowSecurity => unfold Sql.enableRowSecurity Sql.alterTable
  case' dropPolicy => unfold Sql.dropPolicy
  case' createPolicy table operation predicate =>
    have clause := Sql.closed_policyClause (closed _ (List.mem_singleton.mpr rfl)) operation
    unfold Sql.createPolicy
  all_goals
    repeat' with_reducible apply Closed.append
    all_goals first | with_reducible first | exact .identifier _ | assumption | exact .word rfl

end Statement

section Expressions

variable {scope : Scope}

theorem Scope.closed_subselect (relation : Relation) {value column : String}
    (closedValue : Closed value) (closedColumn : Closed column) :
    Closed (subselect relation value column) := by
  unfold subselect
  repeat' with_reducible apply Closed.append
  all_goals first | with_reducible first | exact .identifier _ | assumption | exact .word rfl

theorem Scope.closed_column {table field sql : String}
    (compiled : scope.column table field = .ok sql) : Closed sql := by
  unfold column at compiled
  split at compiled <;> cases compiled
  exact ((Closed.identifier table).append (.word rfl)).append (.identifier field)

theorem Scope.closed_literal {value : Json} {sql : String}
    (compiled : scope.literal value = .ok sql) : Closed sql := by
  unfold literal at compiled
  split at compiled <;> cases compiled
  exact scope.dialect.closed_constantLiteral _

theorem SqlFunction.closed_sql (function : SqlFunction) (dialect : Dialect) {args : List String}
    (closed : ∀ arg ∈ args, Closed arg) : Closed (function.sql dialect args) := by
  have arguments : Closed (", ".intercalate args) := Closed.intercalate (.word rfl) closed
  cases function <;> simp only [sql]
  case now => split <;> exact .word rfl
  case currentDate => exact .word rfl
  case uuid => split <;> exact .word rfl
  all_goals
    repeat' with_reducible apply Closed.append
    all_goals first | with_reducible exact arguments | exact .word rfl

theorem Scope.closed_call {name sql : String} {args : List String}
    (closed : ∀ arg ∈ args, Closed arg) (compiled : scope.call name args = .ok sql) :
    Closed sql := by
  unfold call at compiled
  split at compiled
  · cases compiled
  · split at compiled <;> cases compiled
    exact SqlFunction.closed_sql _ _ closed

theorem Scope.closed_join {operator : String} (between : Closed operator) (neutral : Bool)
    {operands : List String} (closed : ∀ operand ∈ operands, Closed operand) :
    Closed (scope.join operator neutral operands) := by
  cases operands with
  | nil => exact scope.dialect.closed_booleanLiteral neutral
  | cons operand operands =>
    have joined := Closed.intercalate between closed
    exact ((.word rfl : Closed "(").append joined).append (.word rfl)

theorem Scope.passes_closed (bound : ∀ binding ∈ scope.bindings, Closed binding.2) :
    scope.Passes Closed where
  literal := closed_literal
  column := closed_column
  subselect := closed_subselect
  bound := bound
  compare op l r left right := by
    have operator := op.closed_sql
    repeat' with_reducible apply Closed.append
    all_goals first | with_reducible assumption | exact .word rfl
  and := closed_join (.word rfl) true
  or := closed_join (.word rfl) false
  not inner := ((.word rfl : Closed "(NOT ").append inner).append (.word rfl)
  isNull inner := ((.word rfl : Closed "(").append inner).append (.word rfl)
  call := closed_call

/-- What an expression is compiled to is closed. -/
theorem closed_compileSql (bound : ∀ binding ∈ scope.bindings, Closed binding.2) {e : Expr}
    {sql : String} (compiled : compileSql scope e = .ok sql) : Closed sql :=
  (Scope.passes_closed bound).expr compiled

end Expressions

end SchemaDelta
