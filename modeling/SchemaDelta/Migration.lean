import SchemaDelta.Diff
import SchemaDelta.Error

/-!
# Migrations

A plan is a list of steps in order of execution, with the reason why it ends early if it does.
Plans are joined one after the other, so the first reason counts. A plan that does not end early
makes a migration.
-/

namespace SchemaDelta

/-- A constraint that a new column cannot take over. -/
inductive Constraint where
  | default
  | notNull
  | primaryKey
  | foreignKey
deriving DecidableEq

namespace Constraint

/-- The constraint in SQL. -/
def name : Constraint → String
  | default => "DEFAULT"
  | notNull => "NOT NULL"
  | primaryKey => "PRIMARY KEY"
  | foreignKey => "FOREIGN KEY"

end Constraint

/-- A change that a migration leaves to the user. -/
inductive Warning where
  | nullabilitySkipped (table field : String) (nullable : Bool)
  | defaultSkipped (table field : String)
  | foreignKeySkipped (table field : String)
  | rebuildDropped (table field : String) (constraint : Constraint)
  | primaryKeyChange (table field : String) (primaryKey : Bool)
deriving DecidableEq

namespace Warning

/-- The message of a warning. -/
def message : Warning → String
  | nullabilitySkipped table field nullable =>
    "nullability of '" ++ table ++ "." ++ field ++ "' not changed to " ++
      (if nullable then "NULL" else "NOT NULL") ++ ": unsupported by dialect"
  | defaultSkipped table field =>
    "default of '" ++ table ++ "." ++ field ++ "' not changed: unsupported by dialect"
  | foreignKeySkipped table field =>
    "foreign key of '" ++ table ++ "." ++ field ++ "' not changed: unsupported by dialect"
  | rebuildDropped table field constraint =>
    constraint.name ++ " of '" ++ table ++ "." ++ field ++
      "' lost when rebuilding the column: rebuild the table manually"
  | primaryKeyChange table field primaryKey =>
    "primary key flag of '" ++ table ++ "." ++ field ++ "' changed to " ++
      (if primaryKey then "true" else "false") ++ ": rebuild the table manually"

end Warning

/-- A step of a plan: a statement, a warning, or a note about the steps that follow. -/
inductive Step where
  | execute (statement : Statement)
  | warn (warning : Warning)
  | noteRebuild (table column temporary : String)
  | notePolicies (table : String) (count : Nat)

namespace Step

/-- The statement that a step executes, if it does. -/
def statement? : Step → Option Statement
  | execute statement => some statement
  | _ => none

/-- The warning that a step gives, if it does. -/
def warning? : Step → Option Warning
  | warn warning => some warning
  | _ => none

end Step

/-- Steps in order of execution, and why nothing follows them if the plan ends early. -/
structure Plan where
  steps : List Step
  failure : Option SchemaError := none

namespace Plan

/-- The plan that does nothing. -/
def nothing : Plan := ⟨[], none⟩

/-- The plan that ends early without any step. -/
def fail (error : SchemaError) : Plan := ⟨[], some error⟩

/-- The plan that executes statements in order. -/
def execute (statements : List Statement) : Plan := ⟨statements.map .execute, none⟩

/-- The plan that does nothing but warn. -/
def warn (warning : Warning) : Plan := ⟨[.warn warning], none⟩

/-- The first plan, and the second one after it unless the first ends early. -/
protected def append (p q : Plan) : Plan :=
  match p.failure with
  | some _ => p
  | none => ⟨p.steps ++ q.steps, q.failure⟩

instance : Append Plan := ⟨Plan.append⟩

/-- All plans in order, up to the first that ends early. -/
def sequence : List Plan → Plan
  | [] => nothing
  | plan :: plans => plan ++ sequence plans

/-- The plan that depends on a result, or that ends for lack of it. -/
def ofResult {α : Type} (result : Except SchemaError α) (plan : α → Plan) : Plan :=
  match result with
  | .ok value => plan value
  | .error error => fail error

end Plan

/-- A complete plan for a dialect, with the access changes it was made from. -/
structure Migration where
  dialect : Dialect
  steps : List Step
  access : List AccessChange

namespace Migration

variable (migration : Migration)

/-- The statements in order of execution. -/
def statements : List Statement := migration.steps.filterMap Step.statement?

/-- The warnings in the order of the steps they are about. -/
def warnings : List Warning := migration.steps.filterMap Step.warning?

/-- Whether there is nothing to execute. -/
def isEmpty : Bool := migration.statements.isEmpty

/-- The script: every statement with a semicolon and a line break after it. -/
def sql : String := String.join (migration.statements.map fun s => s.render ++ ";\n")

end Migration

/-- The migration that a plan makes unless it ends early. -/
def Plan.toMigration (plan : Plan) (dialect : Dialect) (access : List AccessChange) :
    Except SchemaError Migration :=
  match plan.failure with
  | some error => .error error
  | none => .ok { dialect, steps := plan.steps, access }

end SchemaDelta
