import SchemaDelta.Expr

/-!
# Access rules

Every operation on the rows of a table is guarded by a condition. Without a rule of its own an
operation is allowed.
-/

namespace SchemaDelta

/-- A condition on a row: always the same, or given by an expression. -/
inductive Condition where
  | always (allowed : Bool)
  | expr (value : Expr)

namespace Condition

/-- The condition of an operation without a rule. -/
def permissive : Condition := always true

/-- Equality of conditions. -/
protected def beq : Condition → Condition → Bool
  | always x, always y => x == y
  | expr x, expr y => x == y
  | _, _ => false

instance : BEq Condition := ⟨Condition.beq⟩

end Condition

/-- A guarded operation on rows. -/
inductive Operation where
  | read
  | create
  | update
  | delete
deriving DecidableEq

namespace Operation

/-- All operations, in the order of their policies. -/
def all : List Operation := [read, create, update, delete]

/-- The name in documents and in the names of policies. -/
def name : Operation → String
  | read => "read"
  | create => "create"
  | update => "update"
  | delete => "delete"

/-- The operation of a name. -/
def ofName? (name : String) : Option Operation := all.find? (·.name == name)

end Operation

/-- The conditions on the rows of one table. -/
structure AccessControl where
  read : Condition := .permissive
  create : Condition := .permissive
  update : Condition := .permissive
  delete : Condition := .permissive

namespace AccessControl

/-- The condition that guards an operation. -/
def get (access : AccessControl) : Operation → Condition
  | .read => access.read
  | .create => access.create
  | .update => access.update
  | .delete => access.delete

/-- Guards an operation by a condition. -/
def set (access : AccessControl) (operation : Operation) (condition : Condition) : AccessControl :=
  match operation with
  | .read => { access with read := condition }
  | .create => { access with create := condition }
  | .update => { access with update := condition }
  | .delete => { access with delete := condition }

end AccessControl

end SchemaDelta
