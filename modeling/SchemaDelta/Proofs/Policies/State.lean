import SchemaDelta.Proofs.Database
import SchemaDelta.Proofs.Overlay
import SchemaDelta.Proofs.Policies.Block

/-!
# Row security

What statements do to row security and to the policies of tables. A dropped table takes its policies
along, and together with what depends on it also policies of other tables; which ones depend on it
is left open. A policy that is there already cannot be created, which ends the script.
-/

namespace SchemaDelta

/-- A policy of a table: the operation that it guards, and the predicate that rows have to
satisfy. -/
structure Policy where
  operation : Operation
  predicate : String
deriving DecidableEq

/-- The policies of a table by their names, and whether they are in force. -/
structure TableAccess where
  rowSecurity : Bool
  policies : String → Option Policy

namespace TableAccess

/-- A table as it is created. -/
def fresh : TableAccess := ⟨false, fun _ => none⟩

/-- The table after the policies that depend on a dropped one are gone. -/
def release (depends : Policy → Bool) (access : TableAccess) : TableAccess :=
  { access with policies := fun name => (access.policies name).filter (!depends ·) }

/-- What a statement does to the policies of the table that it alters. -/
def alter (access : TableAccess) : Statement → Option TableAccess
  | .enableRowSecurity _ => some { access with rowSecurity := true }
  | .dropPolicy table operation => some {
      access with
      policies := Function.update access.policies (Sql.policyName table operation) none }
  | .createPolicy table operation predicate =>
    if (access.policies (Sql.policyName table operation)).isNone then some {
      access with
      policies := Function.update access.policies (Sql.policyName table operation)
        (some ⟨operation, predicate⟩) }
    else none
  | _ => some access

/-- All policies have the names that the operations on the table give them. -/
def NamedFor (table : String) (access : TableAccess) : Prop :=
  ∀ name, (access.policies name).isSome → ∃ operation, name = Sql.policyName table operation

end TableAccess

/-- The tables by their names, with their policies. -/
abbrev DatabaseAccess := String → Option TableAccess

namespace DatabaseAccess

/-- A database without tables. -/
def empty : DatabaseAccess := fun _ => none

variable (depends : String → Policy → Bool)

/-- The database without a table and, if asked for, without the policies that depend on it. -/
def without (access : DatabaseAccess) (table : String) (cascade : Bool) : DatabaseAccess :=
    fun name =>
  if name = table then none
  else if cascade then (access name).map (TableAccess.release (depends table))
  else access name

/-- What a statement does to the policies of a database. -/
def execute (access : DatabaseAccess) : Statement → Option DatabaseAccess
  | .createTable table _ =>
    if (access table).isNone then some (Function.update access table (some .fresh)) else none
  | .dropTable table cascade =>
    if (access table).isSome then some (access.without depends table cascade) else none
  | statement => do
    let table ← statement.alteredTable?
    let found ← access table
    let altered ← found.alter statement
    return Function.update access table (some altered)

/-- What a script does to the policies of a database. -/
def run (access : DatabaseAccess) (script : List Statement) : Option DatabaseAccess :=
  script.foldlM (execute depends) access

variable {depends} {access : DatabaseAccess}

theorem run_append (first second : List Statement) :
    access.run depends (first ++ second) =
      (access.run depends first).bind (run depends · second) :=
  List.foldlM_append ..

theorem execute_eq_alterAt {s : Statement} {table : String} (on : s.alteredTable? = some table)
    (access : DatabaseAccess) :
    access.execute depends s = alterAt access table (TableAccess.alter · s) := by
  cases s <;> cases on <;> rfl

/-- What a statement does to the policies of the table that it alters. -/
theorem execute_of_alteredTable? {next : DatabaseAccess} {s : Statement} {table : String}
    (on : s.alteredTable? = some table) (executed : access.execute depends s = some next) :
    ∃ found altered, access table = some found ∧ found.alter s = some altered ∧
      next = Function.update access table (some altered) :=
  alterAt_eq_some_iff.mp ((execute_eq_alterAt on access).symm.trans executed)

end DatabaseAccess

/-- A policy is created under a name that is free. -/
theorem Statement.unclaimed_of_execute {depends : String → Policy → Bool}
    {access final : DatabaseAccess} {table predicate : String} {operation : Operation}
    (executed : access.execute depends (.createPolicy table operation predicate) = some final) :
    ∃ found, access table = some found ∧
      found.policies (Sql.policyName table operation) = none := by
  obtain ⟨found, altered, held, changed, -⟩ :=
    DatabaseAccess.execute_of_alteredTable? (rfl : Statement.alteredTable? _ = some table) executed
  simp only [TableAccess.alter, Option.ite_none_right_eq_some] at changed
  exact ⟨found, held, Option.isNone_iff_eq_none.mp changed.1⟩

end SchemaDelta
