import SchemaDelta.Json.Printer
import SchemaDelta.Schema.Snapshot
import SchemaDelta.Statement

/-!
# Compiling expressions

A compiler turns an expression into SQL, given the table it stands on. `compileSql` is the usual
one. It knows a catalogue of functions by their names in upper case; paths follow foreign keys by
nested selects.
-/

namespace SchemaDelta

/-- How many arguments a function takes. -/
inductive Arity where
  | exactly (count : Nat)
  | atLeast (count : Nat)
deriving DecidableEq

namespace Arity

/-- Whether a function takes so many arguments. -/
def accepts : Arity → Nat → Bool
  | exactly count, n => n == count
  | atLeast count, n => count ≤ n

/-- The number of arguments as messages give it. -/
def text : Arity → String
  | exactly count => toString count
  | atLeast count => "at least " ++ toString count

end Arity

/-- Why an expression has no SQL. -/
inductive CompileError where
  | unknownField (table field : String)
  | unknownRelation (table field : String)
  | unboundVariable (name : String)
  | unknownFunction (name : String)
  | arity (name : String) (expected : Arity) (actual : Nat)
  | unsupportedLiteral (text : String)
deriving DecidableEq

namespace CompileError

/-- The message of an error. -/
def message : CompileError → String
  | unknownField table field => "unknown field '" ++ field ++ "' on table '" ++ table ++ "'"
  | unknownRelation table field =>
    "field '" ++ table ++ "." ++ field ++ "' is not a foreign key"
  | unboundVariable name => "unbound variable '" ++ name ++ "'"
  | unknownFunction name => "unknown function '" ++ name ++ "'"
  | arity name expected actual =>
    "function '" ++ name ++ "' expects " ++ expected.text ++ " argument(s), got " ++
      toString actual
  | unsupportedLiteral text => "unsupported literal " ++ text

end CompileError

/-- What an expression may refer to: a table of a snapshot, and variables bound to SQL. -/
structure Scope where
  dialect : Dialect
  table : String
  schema : Snapshot
  bindings : List (String × String)

/-- A compiler of expressions. -/
abbrev Compiler := Scope → Expr → Except CompileError String

/-- The functions of the catalogue. -/
inductive SqlFunction where
  | now
  | currentDate
  | uuid
  | lower
  | upper
  | length
  | coalesce
deriving DecidableEq

namespace SqlFunction

/-- All functions of the catalogue. -/
def all : List SqlFunction := [now, currentDate, uuid, lower, upper, length, coalesce]

/-- The name in expressions, in upper case. -/
def name : SqlFunction → String
  | now => "NOW"
  | currentDate => "CURRENT_DATE"
  | uuid => "UUID"
  | lower => "LOWER"
  | upper => "UPPER"
  | length => "LENGTH"
  | coalesce => "COALESCE"

/-- The function of a name, which must be in upper case. -/
def ofName? (name : String) : Option SqlFunction := all.find? (·.name == name)

/-- How many arguments a function takes. -/
def arity : SqlFunction → Arity
  | now | currentDate | uuid => .exactly 0
  | lower | upper | length => .exactly 1
  | coalesce => .atLeast 1

/-- The call of a function with compiled arguments. -/
def sql (dialect : Dialect) (args : List String) : SqlFunction → String
  | now => if dialect.isEmbedded then "CURRENT_TIMESTAMP" else "NOW()"
  | currentDate => "CURRENT_DATE"
  | uuid => if dialect.isEmbedded then "lower(hex(randomblob(16)))" else "gen_random_uuid()"
  | function => function.name ++ "(" ++ ", ".intercalate args ++ ")"

end SqlFunction

/-- The segments of a dotted path: the first one and the others. -/
def pathSegments : List Char → List Char × List (List Char)
  | [] => ([], [])
  | c :: cs =>
    let (first, others) := pathSegments cs
    if c = '.' then ([], first :: others) else (c :: first, others)

namespace Scope

variable (scope : Scope)

/-- The SQL of a literal, which has to be a scalar. -/
def literal (value : Json) : Except CompileError String :=
  match Constant.ofJson? value with
  | some constant => .ok (scope.dialect.constantLiteral constant)
  | none => .error (.unsupportedLiteral value.compact)

/-- The column of a table, if it is declared. -/
def column (table field : String) : Except CompileError String :=
  match scope.schema.column? table field with
  | some _ => .ok (Sql.identifier table ++ "." ++ Sql.identifier field)
  | none => .error (.unknownField table field)

/-- The select of a value from the row that a foreign key column leads to. -/
def subselect (relation : Relation) (value column : String) : String :=
  "(SELECT " ++ value ++ " FROM " ++ Sql.identifier relation.toTable ++ " WHERE " ++
    Sql.identifier relation.toTable ++ "." ++ Sql.identifier relation.toField ++ " = " ++
    column ++ ")"

/-- Follows a path from a table: every segment but the last is a foreign key. -/
def path (table field : String) : List String → Except CompileError String
  | [] => scope.column table field
  | next :: others =>
    match scope.column table field with
    | .error e => .error e
    | .ok column =>
      match scope.schema.relation? table field with
      | none => .error (.unknownRelation table field)
      | some relation =>
        match path relation.toTable next others with
        | .error e => .error e
        | .ok value => .ok (subselect relation value column)

/-- The call of a function from the catalogue. -/
def call (name : String) (args : List String) : Except CompileError String :=
  match SqlFunction.ofName? name with
  | none => .error (.unknownFunction name)
  | some function =>
    if function.arity.accepts args.length then .ok (function.sql scope.dialect args)
    else .error (.arity name function.arity args.length)

/-- Several operands joined by an operator; without operands, the neutral value. -/
def join (operator : String) (neutral : Bool) : List String → String
  | [] => scope.dialect.booleanLiteral neutral
  | operands => "(" ++ operator.intercalate operands ++ ")"

end Scope

mutual

/-- The usual compiler. -/
def compileSql (scope : Scope) : Expr → Except CompileError String
  | .literal value => scope.literal value
  | .field path =>
    let (first, others) := pathSegments path.toList
    scope.path scope.table (String.ofList first) (others.map String.ofList)
  | .var name =>
    match KeyedList.get? scope.bindings name with
    | some sql => .ok sql
    | none => .error (.unboundVariable name)
  | .compare op left right => do
    let l ← compileSql scope left
    let r ← compileSql scope right
    return "(" ++ l ++ " " ++ op.sql ++ " " ++ r ++ ")"
  | .and args => do return scope.join " AND " true (← compileSqlList scope args)
  | .or args => do return scope.join " OR " false (← compileSqlList scope args)
  | .not arg => do return "(NOT " ++ (← compileSql scope arg) ++ ")"
  | .isNull arg => do return "(" ++ (← compileSql scope arg) ++ " IS NULL)"
  | .call name args => do scope.call name (← compileSqlList scope args)

/-- Compiles each expression, up to the first fault. -/
def compileSqlList (scope : Scope) : List Expr → Except CompileError (List String)
  | [] => .ok []
  | e :: es => do
    let sql ← compileSql scope e
    let sqls ← compileSqlList scope es
    return sql :: sqls

end

end SchemaDelta
