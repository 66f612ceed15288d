import SchemaDelta.Json

/-!
# Constants

The scalar values: what a literal in an expression and a fixed default can be.
-/

namespace SchemaDelta

/-- A scalar value. -/
inductive Constant where
  | null
  | bool (value : Bool)
  | number (value : Number)
  | text (value : String)

namespace Constant

/-- Equality of constants, with numbers compared as numbers. -/
protected def beq : Constant → Constant → Bool
  | null, null => true
  | bool x, bool y => x == y
  | number x, number y => x == y
  | text x, text y => x == y
  | _, _ => false

instance : BEq Constant := ⟨Constant.beq⟩

/-- A constant is written as the value it is. -/
def toJson : Constant → Json
  | null => .null
  | bool value => .bool value
  | number value => .number value
  | text value => .string value

/-- The constant that a value is, unless it is an array or an object. -/
def ofJson? : Json → Option Constant
  | .null => some null
  | .bool value => some (bool value)
  | .number value => some (number value)
  | .string value => some (text value)
  | _ => none

end Constant

end SchemaDelta
