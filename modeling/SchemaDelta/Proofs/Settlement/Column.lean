import SchemaDelta.Migration.Planner
import SchemaDelta.Proofs.Database
import SchemaDelta.Proofs.Diff
import SchemaDelta.Proofs.Plan

/-!
# Columns after a migration

What becomes of a column that both snapshots have. A database that alters columns in place takes
over every attribute but the key flag. An embedded one keeps the column as it is, or rebuilds it
when the type of the field changes; a rebuilt column has nothing but its type and a constant
default.
-/

namespace SchemaDelta

/-- Whether a default is the same in every row. -/
def DefaultValue.isConstant : DefaultValue → Bool
  | constant _ => true
  | computed _ => false

namespace Dialect

/-- The column that is built anew for a field. -/
def rebuiltColumn (dialect : Dialect) (field : Field) : ColumnState where
  type := dialect.columnType field.type
  primaryKey := false
  notNull := false
  default := field.default.filter DefaultValue.isConstant
  foreignKey := none

/-- What a migration makes of the column of a field that both snapshots have. -/
def settledColumn (dialect : Dialect) (before after : Field) : ColumnState :=
  if dialect.isEmbedded then
    if before.type = after.type then .ofField dialect before else dialect.rebuiltColumn after
  else {
    type := dialect.columnType after.type
    primaryKey := before.primaryKey
    notNull :=
      if before.nullable = after.nullable then before.primaryKey || !before.nullable
      else !after.nullable
    default := if before.default == after.default then before.default else after.default
    foreignKey := after.foreignKey }

variable {dialect : Dialect} {before after : Field}

/-- A column without changes stays as it is. -/
theorem settledColumn_of_isEmpty
    (unchanged : (FieldModification.between before after).isEmpty = true) :
    dialect.settledColumn before after = .ofField dialect before := by
  obtain ⟨type, nullable, -, default, key⟩ := FieldModification.isEmpty_between.mp unchanged
  simp [settledColumn, ColumnState.ofField, type, nullable, default, key]

end Dialect

namespace ColumnState

/-- A released column refers to nothing or to what it referred to. If the reference does not change
it leads to a table that stays, so it is still there. -/
theorem release_foreignKey (dialect : Dialect) {before after : Field} {lost : List String}
    (apart : ∀ key, after.foreignKey = some key → key.table ∉ lost) :
    (((ofField dialect before).release lost).foreignKey = none ∨
        ((ofField dialect before).release lost).foreignKey = before.foreignKey) ∧
      (if before.foreignKey = after.foreignKey then
        ((ofField dialect before).release lost).foreignKey else after.foreignKey) =
          after.foreignKey := by
  constructor
  · cases key : before.foreignKey with
    | none => simp [release, ofField, key]
    | some key' =>
      by_cases gone : key'.table ∈ lost
      · simp [release, ofField, key, gone]
      · simp [release, ofField, key, gone]
  · split
    case isTrue same =>
      rw [release_eq_self]
      · exact same
      · intro key found
        exact apart key (same ▸ found)
    case isFalse => rfl

end ColumnState

namespace Planner

variable {planner : Planner} {table column : String} {state : ColumnState}

theorem declared_of_renderDefault {value : DefaultValue} {rendered : RenderedDefault}
    (made : planner.renderDefault table column value = .ok rendered) :
    rendered.declared = value := by
  unfold renderDefault at made
  cases sql : planner.defaultSql table column value with
  | error e =>
    rw [sql] at made
    cases made
  | ok text =>
    rw [sql] at made
    cases made
    rfl

theorem all_onChange {α : Type} {P : Statement → Prop} {plan : Change α → Plan}
    {change : Option (Change α)} (each : ∀ c, (plan c).All P) : (onChange plan change).All P := by
  cases change with
  | none => exact Plan.all_nothing
  | some c => exact each c

theorem complete_onChange {α : Type} {plan : Change α → Plan} {change : Option (Change α)}
    (each : ∀ c, (plan c).Complete) : (onChange plan change).Complete := by
  cases change with
  | none => exact Plan.complete_nothing
  | some c => exact each c

section Warn

variable {α : Type} (warning : Change α → Warning) (change : Option (Change α))

theorem complete_onChange_warn : (onChange (fun c => .warn (warning c)) change).Complete :=
  complete_onChange fun _ => Plan.complete_warn _

theorem statements_onChange_warn :
    (onChange (fun c => .warn (warning c)) change).statements = [] := by
  cases change <;> rfl

theorem warnings_onChange_warn :
    (onChange (fun c => .warn (warning c)) change).warnings = (change.map warning).toList := by
  cases change <;> rfl

end Warn

theorem all_addConstraint_of {P : Statement → Prop} {key : Option ForeignKey}
    (each : ∀ key', key = some key' → P (.addForeignKey table column key')) :
    (planner.addConstraint table column key).All P := by
  cases key with
  | none => exact Plan.all_nothing
  | some key =>
    simp only [addConstraint]
    split
    · simpa using each key rfl
    · exact Plan.all_nothing

theorem all_dropConstraint_of {P : Statement → Prop} {key : Option ForeignKey}
    (each : ∀ key', key = some key' → P (.dropForeignKey table column)) :
    (planner.dropConstraint table column key).All P := by
  cases key with
  | none => exact Plan.all_nothing
  | some key =>
    simp only [dropConstraint]
    split
    · simpa using each key rfl
    · exact Plan.all_nothing

theorem all_addConstraint (key : Option ForeignKey) :
    (planner.addConstraint table column key).All (Statement.OnColumn table column) :=
  all_addConstraint_of fun _ _ => ⟨rfl, rfl⟩

theorem all_dropConstraint (key : Option ForeignKey) :
    (planner.dropConstraint table column key).All (Statement.OnColumn table column) :=
  all_dropConstraint_of fun _ _ => ⟨rfl, rfl⟩

theorem complete_addConstraint (key : Option ForeignKey) :
    (planner.addConstraint table column key).Complete := by
  cases key with
  | none => rfl
  | some key =>
    simp only [addConstraint]
    split <;> rfl

theorem complete_dropConstraint (key : Option ForeignKey) :
    (planner.dropConstraint table column key).Complete := by
  cases key with
  | none => rfl
  | some key =>
    simp only [dropConstraint]
    split <;> rfl

theorem complete_alterNullable (change : Change Bool) :
    (planner.alterNullable table column change).Complete := by
  unfold alterNullable
  split <;> rfl

theorem complete_alterForeignKey (change : Change (Option ForeignKey)) :
    (planner.alterForeignKey table column change).Complete := by
  unfold alterForeignKey
  split
  · exact Plan.complete_append.mpr ⟨complete_dropConstraint _, complete_addConstraint _⟩
  · rfl

theorem all_alterConstraints_of {P : Statement → Prop} {m : FieldModification}
    (nullable : ∀ flag, P (.alterNullable table m.name flag))
    (set : ∀ value default, planner.renderDefault table m.name value = .ok default →
      P (.setDefault table m.name default))
    (drop : P (.dropDefault table m.name))
    (added : ∀ key, P (.addForeignKey table m.name key))
    (dropped : P (.dropForeignKey table m.name)) : (planner.alterConstraints table m).All P := by
  refine Plan.all_append (Plan.all_append ?nullable ?default) ?foreignKey
  case nullable =>
    refine all_onChange fun change => ?_
    unfold alterNullable
    split
    · simpa using nullable change.after
    · exact Plan.all_warn _
  case default =>
    refine all_onChange fun change => ?_
    unfold alterDefault
    split
    · split
      · refine Plan.all_ofResult fun rendered made => ?_
        simpa using set _ rendered made
      · simpa using drop
    · exact Plan.all_warn _
  case foreignKey =>
    refine all_onChange fun change => ?_
    unfold alterForeignKey
    split
    · exact Plan.all_append (all_dropConstraint_of fun _ _ => dropped)
        (all_addConstraint_of fun key _ => added key)
    · exact Plan.all_warn _

theorem all_alterConstraints (m : FieldModification) :
    (planner.alterConstraints table m).All (Statement.OnColumn table m.name) :=
  all_alterConstraints_of (fun _ => ⟨rfl, rfl⟩) (fun _ _ _ => ⟨rfl, rfl⟩) ⟨rfl, rfl⟩
    (fun _ => ⟨rfl, rfl⟩) ⟨rfl, rfl⟩

section InPlace

variable (inPlace : planner.dialect.isEmbedded = false)

include inPlace

theorem run_alterNullable (before after : Bool) :
    state.run
        (onChange (planner.alterNullable table column) (Change.between before after)).statements =
      some { state with notNull := if before = after then state.notNull else !after } := by
  by_cases same : before = after
  · simp [same, Change.between_self, onChange, ColumnState.run]
  · simp [same, Change.between, onChange, alterNullable, Dialect.supportsAlterColumnConstraints,
      inPlace, ColumnState.run, ColumnState.alter]

theorem run_alterDefault {before after : Option DefaultValue}
    (complete :
      (onChange (planner.alterDefault table column) (Change.between before after)).Complete) :
    state.run
        (onChange (planner.alterDefault table column) (Change.between before after)).statements =
      some { state with default := if before == after then state.default else after } := by
  cases same : before == after with
  | true => simp [same, Change.between, onChange, ColumnState.run]
  | false =>
    simp only [Change.between, same, onChange, alterDefault,
      Dialect.supportsAlterColumnConstraints, inPlace] at complete ⊢
    cases after with
    | none => simp [ColumnState.run, ColumnState.alter]
    | some value =>
      obtain ⟨rendered, result, -⟩ := Plan.complete_ofResult.mp complete
      simp [result, ColumnState.run, ColumnState.alter, declared_of_renderDefault result]

theorem run_alterForeignKey {before after : Option ForeignKey}
    (held : state.foreignKey = none ∨ state.foreignKey = before) :
    state.run
        (onChange (planner.alterForeignKey table column) (Change.between before after)).statements =
      some { state with foreignKey := if before = after then state.foreignKey else after } := by
  by_cases same : before = after
  · simp [same, Change.between_self, onChange, ColumnState.run]
  have differ : (before == after) = false := by simpa using same
  simp only [Change.between, differ, onChange, alterForeignKey, Dialect.usesSeparateForeignKeys,
    inPlace]
  cases before with
  | none =>
    -- without a constraint before there is none in the way of the new one
    have free : state.foreignKey = none := by simpa using held
    cases after with
    | none => exact absurd rfl same
    | some key =>
      simp [dropConstraint, addConstraint, Dialect.usesSeparateForeignKeys, inPlace,
        Plan.statements_append, ColumnState.run, ColumnState.alter, free]
  | some key =>
    cases after with
    | none =>
      simp [dropConstraint, addConstraint, Dialect.usesSeparateForeignKeys, inPlace,
        Plan.statements_append, ColumnState.run, ColumnState.alter]
    | some key' =>
      simp [dropConstraint, addConstraint, Dialect.usesSeparateForeignKeys, inPlace,
        Plan.statements_append, ColumnState.run, ColumnState.alter, same]

theorem run_alterConstraints (state : ColumnState) {before after : Field}
    (held : state.foreignKey = none ∨ state.foreignKey = before.foreignKey)
    (complete : (planner.alterConstraints table (.between before after)).Complete) :
    state.run (planner.alterConstraints table (.between before after)).statements = some {
      state with
      notNull := if before.nullable = after.nullable then state.notNull else !after.nullable
      default := if before.default == after.default then state.default else after.default
      foreignKey :=
        if before.foreignKey = after.foreignKey then state.foreignKey else after.foreignKey } := by
  obtain ⟨first, -⟩ := Plan.complete_append.mp complete
  obtain ⟨nullable, default⟩ := Plan.complete_append.mp first
  rw [alterConstraints, Plan.statements_append first, Plan.statements_append nullable]
  simp only [FieldModification.between] at default ⊢
  rw [ColumnState.run_append, ColumnState.run_append, run_alterNullable inPlace,
    Option.bind_some, run_alterDefault inPlace default, Option.bind_some]
  exact run_alterForeignKey inPlace held

theorem all_modifyField {declaration : Table} (m : FieldModification) :
    (planner.modifyField declaration m).All (Statement.OnColumn declaration.name m.name) := by
  refine Plan.all_append ?_ (all_onChange fun change => Plan.all_warn _)
  cases m.type with
  | none => exact all_alterConstraints m
  | some change =>
    simp only [Dialect.supportsAlterColumnType, inPlace, Bool.not_false, if_true]
    refine Plan.all_append ?_ (all_alterConstraints m)
    simp [Statement.OnColumn, Statement.alteredTable?, Statement.alteredColumn?]

theorem statements_modifyField_of_inPlace {declaration : Table} {m : FieldModification}
    (complete : (planner.modifyField declaration m).Complete) :
    (planner.modifyField declaration m).statements =
      (m.type.map fun change => Statement.alterColumnType declaration.name m.name
        (planner.dialect.columnType change.after)).toList ++
        (planner.alterConstraints declaration.name m).statements ∧
      (planner.alterConstraints declaration.name m).Complete := by
  obtain ⟨main, -⟩ := Plan.complete_append.mp complete
  rw [modifyField, Plan.statements_append main, statements_onChange_warn, List.append_nil]
  cases changed : m.type with
  | none =>
    simp only [changed] at main
    exact ⟨rfl, main⟩
  | some change =>
    simp only [changed, Dialect.supportsAlterColumnType, inPlace, Bool.not_false, if_true] at main ⊢
    obtain ⟨altered, constraints⟩ := Plan.complete_append.mp main
    exact ⟨by rw [Plan.statements_append altered, Plan.statements_execute]; rfl, constraints⟩

/-- Changing a field in place settles its column, also where the reference of the column was lost
together with the table it led to. -/
theorem run_modifyField {declaration : Table} {before after : Field} {lost : List String}
    (apart : ∀ key, after.foreignKey = some key → key.table ∉ lost)
    (complete : (planner.modifyField declaration (.between before after)).Complete) :
    ((ColumnState.ofField planner.dialect before).release lost).run
        (planner.modifyField declaration (.between before after)).statements =
      some (planner.dialect.settledColumn before after) := by
  obtain ⟨statements, constraints⟩ := statements_modifyField_of_inPlace inPlace complete
  obtain ⟨held, kept⟩ := ColumnState.release_foreignKey planner.dialect apart
  rw [statements]
  by_cases same : before.type = after.type
  · rw [FieldModification.between_type_of_eq same, Option.map_none, Option.toList_none,
      List.nil_append, run_alterConstraints inPlace _ held constraints, kept]
    simp [Dialect.settledColumn, inPlace, ColumnState.ofField, ColumnState.release, same]
  · have ran := run_alterConstraints inPlace
      { (ColumnState.ofField planner.dialect before).release lost with
        type := planner.dialect.columnType after.type } held constraints
    rw [FieldModification.between_type_of_ne same, Option.map_some, Option.toList_some,
      List.singleton_append, ColumnState.run_cons, ColumnState.alter, Option.bind_some, ran, kept]
    simp [Dialect.settledColumn, inPlace, ColumnState.ofField, ColumnState.release]

end InPlace

end Planner

end SchemaDelta
