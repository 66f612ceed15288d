import SchemaDelta.Compiler
import SchemaDelta.Schema.Violation

/-!
# Errors

Why a snapshot is refused or a migration cannot be planned.
-/

namespace SchemaDelta

/-- Why a snapshot, a dialect or a migration is refused. -/
inductive SchemaError where
  | violation (violation : Violation)
  | violations (violations : List Violation)
  | unknownDialect (name : String)
  | missingTargetTable (table : String)
  | defaultCompile (table field : String) (cause : CompileError)
  | policyCompile (table : String) (operation : Operation) (cause : CompileError)
deriving DecidableEq

namespace SchemaError

/-- The message of an error. Of several violations each has a line. -/
def message : SchemaError → String
  | violation v => v.message
  | violations vs =>
    "Multiple errors occurred:\n" ++ "\n".intercalate (vs.map fun v => "  - " ++ v.message)
  | unknownDialect name =>
    "Unknown dialect '" ++ name ++ "' (expected postgres, sqlite or libsql)"
  | missingTargetTable table => "Table '" ++ table ++ "' is not present in the target snapshot"
  | defaultCompile table field cause =>
    "Failed to compile default for '" ++ table ++ "." ++ field ++ "': " ++ cause.message
  | policyCompile table operation cause =>
    "Failed to compile " ++ operation.name ++ " policy for '" ++ table ++ "': " ++ cause.message

/-- The error of the compiler that led to this one. -/
def cause? : SchemaError → Option CompileError
  | defaultCompile _ _ cause => some cause
  | policyCompile _ _ cause => some cause
  | _ => none

end SchemaError

namespace Dialect

/-- Reads a dialect; an unknown name is reported as it was written. -/
def parse (text : String) : Except SchemaError Dialect :=
  match parse? text with
  | some dialect => .ok dialect
  | none => .error (.unknownDialect text)

end Dialect

namespace Snapshot

/-- Accepts a snapshot without violations. One violation is reported as it is, several of them
together. -/
def validate (snapshot : Snapshot) : Except SchemaError Unit :=
  match snapshot.violations with
  | [] => .ok ()
  | [v] => .error (.violation v)
  | vs => .error (.violations vs)

end Snapshot

end SchemaDelta
