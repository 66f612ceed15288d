import SchemaDelta.Json
import SchemaDelta.Text.Uppercase

/-!
# Expressions

Conditions and computed defaults are expression trees. They are compared as trees and handed to a
compiler; nothing here evaluates them.
-/

namespace SchemaDelta

/-- A comparison operator. -/
inductive Comparison where
  | eq
  | ne
  | lt
  | le
  | gt
  | ge
deriving DecidableEq

namespace Comparison

/-- All operators. -/
def all : List Comparison := [eq, ne, lt, le, gt, ge]

/-- The name in documents. -/
def name : Comparison → String
  | eq => "eq"
  | ne => "ne"
  | lt => "lt"
  | le => "le"
  | gt => "gt"
  | ge => "ge"

/-- The operator in SQL. -/
def sql : Comparison → String
  | eq => "="
  | ne => "<>"
  | lt => "<"
  | le => "<="
  | gt => ">"
  | ge => ">="

/-- The operator of a name. -/
def ofName? (name : String) : Option Comparison := all.find? (·.name == name)

end Comparison

/-- A node of an expression tree. A dotted path follows foreign keys; a literal is meant to be a
scalar. -/
inductive Expr where
  | literal (value : Json)
  | field (path : String)
  | var (name : String)
  | compare (op : Comparison) (left right : Expr)
  | and (args : List Expr)
  | or (args : List Expr)
  | not (arg : Expr)
  | isNull (arg : Expr)
  | call (name : String) (args : List Expr)

namespace Expr

mutual

/-- Equality of trees, with literals compared as values. -/
protected def beq : Expr → Expr → Bool
  | literal x, literal y => x == y
  | field p, field q => p == q
  | var n, var m => n == m
  | compare o a b, compare p c d => o == p && Expr.beq a c && Expr.beq b d
  | and xs, and ys => beqArgs xs ys
  | or xs, or ys => beqArgs xs ys
  | not a, not b => Expr.beq a b
  | isNull a, isNull b => Expr.beq a b
  | call n xs, call m ys => n == m && beqArgs xs ys
  | _, _ => false

/-- Equality argument by argument. -/
def beqArgs : List Expr → List Expr → Bool
  | [], [] => true
  | x :: xs, y :: ys => Expr.beq x y && beqArgs xs ys
  | _, _ => false

end

instance : BEq Expr := ⟨Expr.beq⟩

mutual

/-- Puts the names of the calls at the root into upper case: those that are reached from the root
through arguments of calls alone. A call below any other node keeps its name. -/
def uppercaseCalls : Expr → Expr
  | call name args => call (uppercase name) (uppercaseCallsList args)
  | e => e

/-- Treats each argument as a root of its own. -/
def uppercaseCallsList : List Expr → List Expr
  | [] => []
  | arg :: args => arg.uppercaseCalls :: uppercaseCallsList args

end

end Expr

end SchemaDelta
